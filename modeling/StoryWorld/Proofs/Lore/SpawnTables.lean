import StoryWorld.Proofs.Lore.Counterparts
import StoryWorld.Proofs.Lore.Exported
import StoryWorld.Proofs.RecordedMentions

/-!
# Exact spawn tables

What the spawn edges of a node say about places is said word by word, and each word has a position:
the place of the edge in the snapshot and the place of the word in the edge, where the first keyword
of the target comes before the overrides (`Snapshot.SpawnMention`). Several edges may say one word,
as keyword or as override, with different chances.

The spawn table of the node records this (`Table.Records`): the words are its keys in the order of
their first mention, and each has the chance of its last mention. An event that happens anywhere
says one word whatever its edges say. `spawnTables_exact` says this of all entries of a lorebook.
-/

set_option autoImplicit false

namespace StoryWorld

namespace Snapshot

/-! ## What spawn edges mention -/

/-- The spawn edges of a node mention a word with a chance. The position is that of the edge and
that of the word in it. -/
inductive SpawnMention (world : Snapshot) (id : ElementId) :
    ℕ ×ₗ ℕ → String → Float → Prop where
  /-- An edge mentions the first keyword of its target, with its probability. -/
  | target {number : ℕ} {edge : Edge} {probability : Float} {overrides : Table String Float}
      {place : Node} {word : String} (here : world.edges[number]? = some edge)
      (own : edge.source = id) (kind : edge.kind = .spawn probability overrides)
      (member : place ∈ world.nodes) (leads : place.id = edge.target)
      (known : place.firstKeyword = some word) :
      SpawnMention world id (toLex (number, 0)) word probability
  /-- After that, an edge mentions its overrides that are greater than zero. -/
  | override {number index : ℕ} {edge : Edge} {probability : Float}
      {overrides : Table String Float} {word : String} {chance : Float}
      (here : world.edges[number]? = some edge) (own : edge.source = id)
      (kind : edge.kind = .spawn probability overrides)
      (listed : overrides.entries[index]? = some (word, chance)) (positive : 0 < chance) :
      SpawnMention world id (toLex (number, index + 1)) word chance

/-- What an edge says about places, each word at its position. -/
def edgeMarks (world : Snapshot) (edge : Edge) (number : ℕ) : List ((ℕ ×ₗ ℕ) × String × Float) :=
  match edge.kind with
  | .spawn probability overrides =>
    ((world.keyword? edge.target).toList.map fun word => (toLex (number, 0), word, probability)) ++
      (overrides.entries.zipIdx.filter fun entry => decide (0 < entry.1.2)).map fun entry =>
        (toLex (number, entry.2 + 1), entry.1)
  | _ => []

/-- What the spawn edges of a node say about places, each word at its position. -/
def spawnMarks (world : Snapshot) (id : ElementId) : List ((ℕ ×ₗ ℕ) × String × Float) :=
  (world.edges.zipIdx.filter fun entry =>
    decide (entry.1.source = id) && decide (entry.1.type = .spawn)).flatMap fun entry =>
      world.edgeMarks entry.1 entry.2

variable {world : Snapshot} {id : ElementId}

theorem map_snd_edgeMarks (edge : Edge) (number : ℕ) :
    (world.edgeMarks edge number).map Prod.snd = world.edgeSpawns edge := by
  unfold edgeMarks edgeSpawns
  cases edge.kind with
  | spawn probability overrides =>
    have listed : overrides.entries.filter (fun entry => decide (0 < entry.2)) =
        (overrides.entries.zipIdx.filter fun entry => decide (0 < entry.1.2)).map Prod.fst := by
      conv_lhs => rw [← List.zipIdx_map_fst 0 overrides.entries, List.filter_map]
      rfl
    simp only [List.map_append, List.map_map, listed]
    rfl
  | adjacent | knows => rfl

/-- Without the positions, this is what the entry is made of. -/
theorem map_snd_spawnMarks : (world.spawnMarks id).map Prod.snd = world.spawns id := by
  have numbered : (world.edgesOf .spawn).filter (fun edge => decide (edge.source = id)) =
      (world.edges.zipIdx.filter fun entry =>
        decide (entry.1.source = id) && decide (entry.1.type = .spawn)).map Prod.fst := by
    rw [edgesOf, List.filter_filter]
    conv_lhs => rw [← List.zipIdx_map_fst 0 world.edges, List.filter_map]
    rfl
  rw [spawns, numbered, spawnMarks, List.map_flatMap, List.flatMap_map]
  simp only [map_snd_edgeMarks]

/-! ## The positions -/

theorem fst_of_mem_edgeMarks {edge : Edge} {number : ℕ} {mark : (ℕ ×ₗ ℕ) × String × Float}
    (member : mark ∈ world.edgeMarks edge number) : (ofLex mark.1).1 = number := by
  unfold edgeMarks at member
  split at member
  · rcases List.mem_append.1 member with target | override
    · obtain ⟨word, -, rfl⟩ := List.mem_map.1 target
      rfl
    · obtain ⟨entry, -, rfl⟩ := List.mem_map.1 override
      rfl
  · cases member

theorem ascending_edgeMarks (edge : Edge) (number : ℕ) :
    (world.edgeMarks edge number).Pairwise fun mark later => mark.1 < later.1 := by
  unfold edgeMarks
  split
  · rename_i probability overrides _
    refine List.pairwise_append.2 ⟨?_, ?_, ?_⟩
    · cases world.keyword? edge.target with
      | none => exact List.Pairwise.nil
      | some word => exact List.pairwise_singleton ..
    · refine List.pairwise_map.2 (((ascending_zipIdx _).filter _).imp fun below => ?_)
      exact Prod.Lex.toLex_lt_toLex.2 (Or.inr ⟨rfl, Nat.succ_lt_succ below⟩)
    · intro mark target later override
      obtain ⟨word, -, rfl⟩ := List.mem_map.1 target
      obtain ⟨entry, -, rfl⟩ := List.mem_map.1 override
      exact Prod.Lex.toLex_lt_toLex.2 (Or.inr ⟨rfl, Nat.succ_pos _⟩)
  · exact List.Pairwise.nil

theorem ascending_spawnMarks :
    (world.spawnMarks id).Pairwise fun mark later => mark.1 < later.1 := by
  refine List.pairwise_flatMap.2 ⟨fun entry _ => ascending_edgeMarks entry.1 entry.2, ?_⟩
  -- Between two edges the place in the snapshot decides, whatever the places in the edges.
  refine ((ascending_zipIdx _).filter _).imp fun below mark member later laterMember => ?_
  refine Prod.Lex.lt_iff.2 (Or.inl ?_)
  rw [fst_of_mem_edgeMarks member, fst_of_mem_edgeMarks laterMember]
  exact below

theorem mem_spawnMarks {mark : (ℕ ×ₗ ℕ) × String × Float} :
    mark ∈ world.spawnMarks id ↔
      ∃ edge number, world.edges[number]? = some edge ∧ edge.source = id ∧ edge.type = .spawn ∧
        mark ∈ world.edgeMarks edge number := by
  simp only [spawnMarks, List.mem_flatMap, List.mem_filter, Bool.and_eq_true, decide_eq_true_eq,
    Prod.exists, List.mem_zipIdx_iff_getElem?, and_assoc]

/-- What is said at a position is what is mentioned there. -/
theorem mem_spawnMarks_iff (valid : world.Valid) {position : ℕ ×ₗ ℕ} {word : String}
    {chance : Float} :
    (position, word, chance) ∈ world.spawnMarks id ↔
      world.SpawnMention id position word chance := by
  rw [mem_spawnMarks]
  constructor
  · rintro ⟨edge, number, here, own, typed, marked⟩
    obtain ⟨probability, overrides, kind⟩ := Edge.kind_of_spawn typed
    rw [edgeMarks, kind] at marked
    rcases List.mem_append.1 marked with target | override
    · obtain ⟨word, known, same⟩ := List.mem_map.1 target
      cases same
      obtain ⟨place, isNode, leads, known⟩ :=
        valid.keyword?_eq_some_iff.1 (Option.mem_toList.1 known)
      exact .target here own kind isNode leads known
    · obtain ⟨⟨spawn, index⟩, listed, same⟩ := List.mem_map.1 override
      cases same
      obtain ⟨listed, positive⟩ := List.mem_filter.1 listed
      exact .override here own kind (List.mem_zipIdx_iff_getElem?.1 listed)
        (of_decide_eq_true positive)
  · intro mention
    cases mention with
    | target here own kind isNode leads known =>
      refine ⟨_, _, here, own, congrArg EdgeKind.type kind, ?_⟩
      rw [edgeMarks, kind]
      refine List.mem_append_left _ (List.mem_map.2 ⟨word, Option.mem_toList.2 ?_, rfl⟩)
      exact valid.keyword?_eq_some_iff.2 ⟨_, isNode, leads, known⟩
    | override here own kind listed positive =>
      refine ⟨_, _, here, own, congrArg EdgeKind.type kind, ?_⟩
      rw [edgeMarks, kind]
      refine List.mem_append_right _ (List.mem_map.2 ⟨((word, chance), _), ?_, rfl⟩)
      exact List.mem_filter.2 ⟨List.mem_zipIdx_iff_getElem?.2 listed, decide_eq_true positive⟩

/-- The spawn table of a node records what its spawn edges mention. -/
theorem Valid.records_spawnTable (valid : world.Valid) (id : ElementId) :
    (world.spawnTable id).Records (world.SpawnMention id) := by
  rw [spawnTable, ← map_snd_spawnMarks]
  exact (Table.records_ofList ascending_spawnMarks).congr fun _ _ _ => mem_spawnMarks_iff valid

/-! ## The tables of a lorebook -/

/-- A spawn edge of the node leads to a place that has the word as its first keyword. -/
def SpawnsAtWord (world : Snapshot) (id : ElementId) (word : String) : Prop :=
  ∃ edge ∈ world.edges, edge.source = id ∧ edge.type = .spawn ∧
    ∃ place ∈ world.nodes, place.id = edge.target ∧ place.firstKeyword = some word

/-- A spawn edge of the node has an override under the word. -/
def OverridesWord (world : Snapshot) (id : ElementId) (word : String) (chance : Float) : Prop :=
  ∃ edge ∈ world.edges, edge.source = id ∧ (word, chance) ∈ edge.kind.overrides.entries

/-- The entry of a node tells exactly where the node appears. -/
structure SpawnsExactly (world : Snapshot) (node : Node) (entry : Entry) : Prop where
  /-- An event that happens anywhere has the one word for this with its chance. -/
  anywhere : ∀ timeFilter chance, node.kind = .event timeFilter true chance →
    ∃ table, entry.canSpawnAt = some table ∧ table.entries = [("any", chance)]
  /-- Anything else has a table that records what its spawn edges mention. So a word without an
  override greater than zero is only in it as the first keyword of a target. -/
  elsewhere : node.isGlobalEvent = false →
    ∃ table, entry.canSpawnAt = some table ∧ table.Records (world.SpawnMention node.id) ∧
      ∀ word ∈ table.keys, (∀ chance, world.OverridesWord node.id word chance → ¬ 0 < chance) →
        world.SpawnsAtWord node.id word

/-- A word that is mentioned but by no override is the first keyword of a target. -/
theorem SpawnMention.spawnsAtWord {position : ℕ ×ₗ ℕ} {word : String} {chance : Float}
    (mention : world.SpawnMention id position word chance)
    (dropped : ∀ chance, world.OverridesWord id word chance → ¬ 0 < chance) :
    world.SpawnsAtWord id word := by
  cases mention with
  | target here own kind isNode leads known =>
    exact ⟨_, List.mem_of_getElem? here, own, congrArg EdgeKind.type kind, _, isNode, leads, known⟩
  | override here own kind listed positive =>
    refine absurd positive (dropped chance ⟨_, List.mem_of_getElem? here, own, ?_⟩)
    rw [kind]
    exact List.mem_of_getElem? listed

theorem Valid.recorded_spawnTable (valid : world.Valid) (id : ElementId) :
    (world.spawnTable id).Records (world.SpawnMention id) ∧
      ∀ word ∈ (world.spawnTable id).keys,
        (∀ chance, world.OverridesWord id word chance → ¬ 0 < chance) →
          world.SpawnsAtWord id word := by
  have records := valid.records_spawnTable id
  refine ⟨records, fun word member dropped => ?_⟩
  obtain ⟨position, chance, mention⟩ := (records.keys word).1 member
  exact mention.spawnsAtWord dropped

theorem Valid.characterEntry_spawnsExactly (valid : world.Valid) {node : Node}
    (typed : node.type = .character) : world.SpawnsExactly node (world.characterEntry node) where
  anywhere := by
    intro timeFilter chance kind
    obtain ⟨disabledFor, other⟩ := Node.kind_of_character typed
    rw [kind] at other
    cases other
  elsewhere := fun _ => ⟨_, rfl, valid.recorded_spawnTable node.id⟩

theorem Valid.eventEntry_spawnsExactly (valid : world.Valid) (node : Node) :
    world.SpawnsExactly node (world.eventEntry node) where
  anywhere := by
    intro timeFilter chance kind
    refine ⟨_, rfl, ?_⟩
    rw [eventSpawnTable, kind]
    rfl
  elsewhere := by
    intro local_
    refine ⟨_, rfl, ?_⟩
    have own : world.eventSpawnTable node = world.spawnTable node.id := by
      rw [Node.isGlobalEvent] at local_
      rw [eventSpawnTable]
      split
      · rename_i kind
        rw [kind] at local_
        cases local_
      · rfl
    rw [own]
    exact valid.recorded_spawnTable node.id

end Snapshot

open Snapshot

/-- **Spawn tables are exact.** The entries of the characters and events of a valid snapshot, in the
order of the nodes, tell exactly where these appear. An event that happens anywhere tells just that,
with its chance, whatever edges it has. Otherwise the words of the table are those that the spawn
edges of the node mention, in the order of their first mention, and each has the chance of its last
mention. -/
theorem spawnTables_exact {world : Snapshot} (accepted : world.validate = .ok ()) :
    List.Forall₂ world.SpawnsExactly (world.nodesOf .character)
        (ofCategory .character world.entries) ∧
      List.Forall₂ world.SpawnsExactly (world.nodesOf .event)
        (ofCategory .event world.entries) := by
  have valid := validate_eq_ok_iff.1 accepted
  rw [ofCategory_character, ofCategory_event, List.forall₂_map_right_iff, List.forall₂_same,
    List.forall₂_map_right_iff, List.forall₂_same]
  exact ⟨fun node member => valid.characterEntry_spawnsExactly (mem_nodesOf.1 member).2,
    fun node _ => valid.eventEntry_spawnsExactly node⟩

/-- A wolf in the woods, where two places share a first keyword and one has none, and a gale that
blows anywhere. -/
def wolfwoods : Snapshot where
  nodes :=
    let place (id : String) (keywords : List String) : Node :=
      { Node.blank ⟨id⟩ id .location with keywords := keywords }
    [place "forest" ["wood", "trees"], place "grove" ["wood"], place "moor" [],
      place "lake" ["lake"], Node.blank ⟨"wolf"⟩ "Wolf" (.character []),
      Node.blank ⟨"gale"⟩ "Gale" (.event [] true 0.25),
      Node.blank ⟨"hunt"⟩ "Hunt" (.event [] false 0.25)]
  edges :=
    [⟨⟨"e1"⟩, ⟨"wolf"⟩, ⟨"forest"⟩,
        .spawn 0.5 (.ofList [("Den", 0.25), ("lake", 0.75), ("Pit", 0)])⟩,
      ⟨⟨"e2"⟩, ⟨"hunt"⟩, ⟨"lake"⟩, .spawn 0 .empty⟩,
      ⟨⟨"e3"⟩, ⟨"wolf"⟩, ⟨"moor"⟩, .spawn 1 (.ofList [("Bog", 0.5), ("Den", 0)])⟩,
      ⟨⟨"e4"⟩, ⟨"wolf"⟩, ⟨"grove"⟩, .spawn 0 .empty⟩,
      ⟨⟨"e5"⟩, ⟨"gale"⟩, ⟨"lake"⟩, .spawn 0.5 .empty⟩,
      ⟨⟨"e6"⟩, ⟨"wolf"⟩, ⟨"lake"⟩, .spawn 0.125 .empty⟩]

theorem wolfwoods_spawns :
    wolfwoods.validate = .ok () ∧
      (wolfwoods.entries.map fun entry => (entry.name, entry.canSpawnAt.map Table.entries)) =
        [("forest", none), ("grove", none), ("moor", none), ("lake", none),
          ("Wolf", some [("wood", 0), ("Den", 0.25), ("lake", 0.125), ("Bog", 0.5)]),
          ("Gale", some [("any", 0.25)]), ("Hunt", some [("lake", 0)])] ∧
      List.Forall₂ wolfwoods.SpawnsExactly (wolfwoods.nodesOf .character)
        (ofCategory .character wolfwoods.entries) ∧
      List.Forall₂ wolfwoods.SpawnsExactly (wolfwoods.nodesOf .event)
        (ofCategory .event wolfwoods.entries) := by
  have accepted : wolfwoods.validate = .ok () := by decide +kernel
  exact ⟨accepted, by decide +kernel, spawnTables_exact accepted⟩

end StoryWorld
