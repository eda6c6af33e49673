import StoryWorld.Proofs.Lore.Counterparts
import StoryWorld.Proofs.Lore.Exported
import StoryWorld.Proofs.RecordedMentions

/-!
# Exact triggers of locations

Adjacency has no direction, but the edges that tell it have one, and there may be several between
two places, in either direction, and from a place to itself. The triggers of a location are read off
in two passes over the edges: first those that start at it, then those that end at it. In either
pass an edge says the first keyword of its far end, if that has one (`Snapshot.BorderMention`), and
what has been said before is left out.

So a trigger stands where it is first said, and an edge between two places with keywords makes each
of them a trigger of the other. `triggers_exact` says this of all entries of a lorebook.
-/

set_option autoImplicit false

namespace StoryWorld

namespace Snapshot

/-! ## What adjacency edges mention -/

/-- The adjacency edges of a node mention a word. Edges that start at the node come before edges
that end at it, and the position among either is that of the edge in the snapshot. -/
inductive BorderMention (world : Snapshot) (id : ElementId) :
    ℕ ×ₗ ℕ → String → Edge → Prop where
  /-- An edge that starts at the node mentions the first keyword of its target. -/
  | fromHere {number : ℕ} {edge : Edge} {place : Node} {word : String}
      (listed : world.edges[number]? = some edge) (type : edge.type = .adjacent)
      (here : edge.source = id) (member : place ∈ world.nodes) (there : place.id = edge.target)
      (known : place.firstKeyword = some word) :
      BorderMention world id (toLex (0, number)) word edge
  /-- An edge that ends at the node mentions the first keyword of its source. -/
  | toHere {number : ℕ} {edge : Edge} {place : Node} {word : String}
      (listed : world.edges[number]? = some edge) (type : edge.type = .adjacent)
      (here : edge.target = id) (member : place ∈ world.nodes) (there : place.id = edge.source)
      (known : place.firstKeyword = some word) :
      BorderMention world id (toLex (1, number)) word edge

/-- What an adjacency edge says to the node at its near end, with the edge itself. -/
def across? (world : Snapshot) (near far : Edge → ElementId) (id : ElementId) (edge : Edge) :
    Option (String × Edge) :=
  if edge.type = .adjacent ∧ near edge = id then (world.keyword? (far edge)).map (·, edge) else none

/-- What one pass over the edges says to a node, by the places of the edges. -/
def pass (world : Snapshot) (near far : Edge → ElementId) (id : ElementId) :
    List (ℕ × String × Edge) :=
  Table.told world.edges (world.across? near far id)

/-- What the adjacency edges of a node say to it, each word at its position. -/
def borderMarks (world : Snapshot) (id : ElementId) : List ((ℕ ×ₗ ℕ) × String × Edge) :=
  ((world.pass Edge.source Edge.target id).map fun mark => (toLex (0, mark.1), mark.2)) ++
    (world.pass Edge.target Edge.source id).map fun mark => (toLex (1, mark.1), mark.2)

variable {world : Snapshot} {id : ElementId}

theorem across?_eq_some_iff {near far : Edge → ElementId} {edge other : Edge} {word : String} :
    world.across? near far id edge = some (word, other) ↔
      edge = other ∧ edge.type = .adjacent ∧ near edge = id ∧
        world.keyword? (far edge) = some word := by
  unfold across?
  split
  · rename_i own
    simp [own, and_comm]
  · rename_i foreign
    simp only [reduceCtorEq, false_iff]
    exact fun ⟨_, type, here, _⟩ => foreign ⟨type, here⟩

theorem mem_pass_iff (valid : world.Valid) {near far : Edge → ElementId} {number : ℕ}
    {word : String} {edge : Edge} :
    (number, word, edge) ∈ world.pass near far id ↔
      world.edges[number]? = some edge ∧ edge.type = .adjacent ∧ near edge = id ∧
        ∃ place ∈ world.nodes, place.id = far edge ∧ place.firstKeyword = some word := by
  rw [pass, Table.mem_told, ← valid.keyword?_eq_some_iff]
  constructor
  · rintro ⟨other, listed, said⟩
    obtain ⟨rfl, own⟩ := across?_eq_some_iff.1 said
    exact ⟨listed, own⟩
  · rintro ⟨listed, own⟩
    exact ⟨edge, listed, across?_eq_some_iff.2 ⟨rfl, own⟩⟩

/-- What is said at a position is what is mentioned there. -/
theorem mem_borderMarks_iff (valid : world.Valid) {position : ℕ ×ₗ ℕ} {word : String}
    {edge : Edge} :
    (position, word, edge) ∈ world.borderMarks id ↔
      world.BorderMention id position word edge := by
  rw [borderMarks, List.mem_append, List.mem_map, List.mem_map]
  constructor
  · rintro (⟨⟨number, _, _⟩, marked, same⟩ | ⟨⟨number, _, _⟩, marked, same⟩)
    · cases same
      obtain ⟨listed, type, here, place, member, there, known⟩ := (mem_pass_iff valid).1 marked
      exact .fromHere listed type here member there known
    · cases same
      obtain ⟨listed, type, here, place, member, there, known⟩ := (mem_pass_iff valid).1 marked
      exact .toHere listed type here member there known
  · intro mention
    cases mention with
    | fromHere listed type here member there known =>
      have marked := (mem_pass_iff valid).2 ⟨listed, type, here, _, member, there, known⟩
      exact Or.inl ⟨_, marked, rfl⟩
    | toHere listed type here member there known =>
      have marked := (mem_pass_iff valid).2 ⟨listed, type, here, _, member, there, known⟩
      exact Or.inr ⟨_, marked, rfl⟩

theorem ascending_borderMarks :
    (world.borderMarks id).Pairwise fun mark later => mark.1 < later.1 := by
  have among : ∀ (side : ℕ) (near far : Edge → ElementId),
      ((world.pass near far id).map fun mark => (toLex (side, mark.1), mark.2)).Pairwise
        fun mark later => mark.1 < later.1 := by
    intro side near far
    refine List.pairwise_map.2 ((Table.ascending_told ..).imp fun {_ _} below => ?_)
    exact Prod.Lex.toLex_lt_toLex.2 (Or.inr ⟨rfl, below⟩)
  refine List.pairwise_append.2 ⟨among 0 .., among 1 .., ?_⟩
  intro mark first later second
  obtain ⟨_, -, rfl⟩ := List.mem_map.1 first
  obtain ⟨_, -, rfl⟩ := List.mem_map.1 second
  exact Prod.Lex.toLex_lt_toLex.2 (Or.inl Nat.zero_lt_one)

/-- An edge joins a node with the places whose keywords it mentions. -/
theorem exists_borderMention_iff {word : String} :
    (∃ position edge, world.BorderMention id position word edge) ↔
      ∃ edge ∈ world.edgesOf .adjacent, ∃ place ∈ world.nodes,
        edge.joins id place.id = true ∧ place.firstKeyword = some word := by
  constructor
  · rintro ⟨position, edge, mention⟩
    cases mention with
    | fromHere listed type here member there known =>
      exact ⟨edge, mem_edgesOf.2 ⟨List.mem_of_getElem? listed, type⟩, _, member,
        decide_eq_true (Or.inl ⟨here, there.symm⟩), known⟩
    | toHere listed type here member there known =>
      exact ⟨edge, mem_edgesOf.2 ⟨List.mem_of_getElem? listed, type⟩, _, member,
        decide_eq_true (Or.inr ⟨there.symm, here⟩), known⟩
  · rintro ⟨edge, isEdge, place, member, joins, known⟩
    obtain ⟨inside, type⟩ := mem_edgesOf.1 isEdge
    obtain ⟨number, listed⟩ := List.mem_iff_getElem?.1 inside
    rcases of_decide_eq_true joins with ⟨here, there⟩ | ⟨there, here⟩
    · exact ⟨_, edge, .fromHere listed type here member there.symm known⟩
    · exact ⟨_, edge, .toHere listed type here member there.symm known⟩

/-! ## Triggers from mentions -/

/-- Without the positions, the edges say the keywords of their far ends in two passes. -/
theorem map_snd_borderMarks :
    (world.borderMarks id).map Prod.snd =
      world.edges.filterMap (world.across? Edge.source Edge.target id) ++
        world.edges.filterMap (world.across? Edge.target Edge.source id) := by
  rw [← Table.map_snd_told, ← Table.map_snd_told, borderMarks]
  simp only [List.map_append, List.map_map, Function.comp_def, pass]

theorem map_fst_across? (near far : Edge → ElementId) :
    (world.edges.filterMap (world.across? near far id)).map Prod.fst =
      (((world.edgesOf .adjacent).filter fun edge => decide (near edge = id)).map far).filterMap
        world.keyword? := by
  rw [edgesOf, List.filter_filter, List.filterMap_map, List.filterMap_filter, List.map_filterMap]
  refine List.filterMap_congr fun edge _ => ?_
  unfold across?
  by_cases type : edge.type = .adjacent <;> by_cases here : near edge = id <;>
    simp [type, here, Function.comp_def]

/-- The triggers of a location are the words that its edges say. -/
theorem triggers_locationEntry (node : Node) :
    (world.locationEntry node).triggers =
      (Table.ofList ((world.borderMarks node.id).map Prod.snd)).keys := by
  rw [Table.keys_ofList, map_snd_borderMarks, List.map_append, map_fst_across?, map_fst_across?,
    ← List.filterMap_append]
  rfl

/-- The triggers of a location are recorded from what its edges mention. -/
theorem Valid.records_triggers (valid : world.Valid) (id : ElementId) :
    (Table.ofList ((world.borderMarks id).map Prod.snd)).Records (world.BorderMention id) :=
  (Table.records_ofList ascending_borderMarks).congr fun _ _ _ => mem_borderMarks_iff valid

/-! ## Edges that say nothing -/

/-- What remains of a world if only some of its edges are kept. -/
def keepEdges (world : Snapshot) (keep : Edge → Bool) : Snapshot :=
  { world with edges := world.edges.filter keep }

theorem filterMap_keepEdges {near far : Edge → ElementId} {keep : Edge → Bool}
    (silent : ∀ edge ∈ world.edges, keep edge = false → world.across? near far id edge = none) :
    (world.keepEdges keep).edges.filterMap ((world.keepEdges keep).across? near far id) =
      world.edges.filterMap (world.across? near far id) := by
  have same : (world.keepEdges keep).across? near far id = world.across? near far id := rfl
  rw [same, keepEdges, List.filterMap_filter]
  refine List.filterMap_congr fun edge member => ?_
  split
  · rfl
  · rename_i left
    exact (silent edge member (Bool.eq_false_iff.2 left)).symm

/-- Edges of a node say nothing to it where the places opposite to it have no keyword. -/
theorem Valid.across?_eq_none (valid : world.Valid) {near far : Edge → ElementId} {edge : Edge}
    (joins : ∀ other, near edge = id → far edge = other → edge.joins id other = true)
    (keywordless : edge.type = .adjacent → ∀ place ∈ world.nodes,
      edge.joins id place.id = true → place.firstKeyword = none) :
    world.across? near far id edge = none := by
  cases said : world.across? near far id edge with
  | none => rfl
  | some pair =>
    obtain ⟨-, type, here, known⟩ := across?_eq_some_iff.1 said
    obtain ⟨place, member, there, known⟩ := valid.keyword?_eq_some_iff.1 known
    rw [keywordless type place member (joins place.id here there.symm)] at known
    cases known

/-! ## The triggers of a lorebook -/

/-- The triggers of an entry are exactly the keywords across the borders of a node. -/
structure BordersExactly (world : Snapshot) (node : Node) (entry : Entry) : Prop where
  /-- No trigger is repeated. -/
  nodup : entry.triggers.Nodup
  /-- The triggers are the first keywords of the nodes that are adjacent in either direction. -/
  triggers : ∀ word, word ∈ entry.triggers ↔
    ∃ edge ∈ world.edgesOf .adjacent, ∃ place ∈ world.nodes,
      edge.joins node.id place.id = true ∧ place.firstKeyword = some word
  /-- They are in the order of their first mention. -/
  order : entry.triggers.Pairwise (Table.MentionedBefore (world.BorderMention node.id))
  /-- Edges to nodes without a keyword might as well not be there. -/
  silent : ∀ keep : Edge → Bool,
    (∀ edge ∈ world.edgesOf .adjacent, keep edge = false → ∀ place ∈ world.nodes,
      edge.joins node.id place.id = true → place.firstKeyword = none) →
    ((world.keepEdges keep).locationEntry node).triggers = entry.triggers

theorem Valid.locationEntry_bordersExactly (valid : world.Valid) (node : Node) :
    world.BordersExactly node (world.locationEntry node) where
  nodup := nodup_distinct _
  triggers := by
    intro word
    rw [triggers_locationEntry, (valid.records_triggers node.id).keys, exists_borderMention_iff]
  order := by
    rw [triggers_locationEntry]
    exact (valid.records_triggers node.id).order
  silent := by
    intro keep keywordless
    have fromHere : ∀ edge ∈ world.edges, keep edge = false →
        world.across? Edge.source Edge.target node.id edge = none := by
      intro edge member left
      refine valid.across?_eq_none (fun _ here there => decide_eq_true (Or.inl ⟨here, there⟩)) ?_
      exact fun type => keywordless edge (mem_edgesOf.2 ⟨member, type⟩) left
    have toHere : ∀ edge ∈ world.edges, keep edge = false →
        world.across? Edge.target Edge.source node.id edge = none := by
      intro edge member left
      refine valid.across?_eq_none (fun _ here there => decide_eq_true (Or.inr ⟨there, here⟩)) ?_
      exact fun type => keywordless edge (mem_edgesOf.2 ⟨member, type⟩) left
    rw [triggers_locationEntry, triggers_locationEntry, map_snd_borderMarks, map_snd_borderMarks,
      filterMap_keepEdges fromHere, filterMap_keepEdges toHere]

end Snapshot

open Snapshot

/-- **Triggers of locations are exact and go both ways.** The entries of the locations of a valid
snapshot, in the order of the nodes, have exactly the first keywords across their borders as
triggers, each once and in the order of their first mention. So where an adjacency edge joins two
locations, the first keyword of each, if it has one, is a trigger of the other. -/
theorem triggers_exact {world : Snapshot} (accepted : world.validate = .ok ()) :
    List.Forall₂ world.BordersExactly (world.nodesOf .location)
        (ofCategory .location world.entries) ∧
      ∀ one ∈ (world.nodesOf .location).zip (ofCategory .location world.entries),
        ∀ other ∈ (world.nodesOf .location).zip (ofCategory .location world.entries),
          ∀ edge ∈ world.edgesOf .adjacent, edge.joins one.1.id other.1.id = true →
            (∀ word, one.1.firstKeyword = some word → word ∈ other.2.triggers) ∧
              ∀ word, other.1.firstKeyword = some word → word ∈ one.2.triggers := by
  have valid := validate_eq_ok_iff.1 accepted
  have exactly_ : List.Forall₂ world.BordersExactly (world.nodesOf .location)
      (ofCategory .location world.entries) := by
    rw [ofCategory_location, List.forall₂_map_right_iff, List.forall₂_same]
    exact fun node _ => valid.locationEntry_bordersExactly node
  refine ⟨exactly_, ?_⟩
  rintro ⟨place, entry⟩ paired ⟨other, otherEntry⟩ otherPaired edge member joins
  have isPlace := (mem_nodesOf.1 (List.of_mem_zip paired).1).1
  have isOther := (mem_nodesOf.1 (List.of_mem_zip otherPaired).1).1
  constructor
  · intro word known
    refine ((List.forall₂_zip exactly_ otherPaired).triggers word).2 ?_
    exact ⟨edge, member, place, isPlace, edge.joins_comm place.id other.id ▸ joins, known⟩
  · intro word known
    refine ((List.forall₂_zip exactly_ paired).triggers word).2 ?_
    exact ⟨edge, member, other, isOther, joins, known⟩

/-- A marsh between places of which two share a first keyword and one has none. Its edges are
repeated, reversed and lead back to it. -/
def marsh : Snapshot where
  nodes :=
    let place (id : String) (keywords : List String) : Node :=
      { Node.blank ⟨id⟩ id .location with keywords := keywords }
    [place "marsh" ["marsh", "bog"], place "hill" ["hill"], place "ford" ["water"],
      place "weir" ["water", "weir"], place "heath" []]
  edges :=
    [⟨⟨"e1"⟩, ⟨"ford"⟩, ⟨"marsh"⟩, .adjacent⟩, ⟨⟨"e2"⟩, ⟨"hill"⟩, ⟨"marsh"⟩, .adjacent⟩,
      ⟨⟨"e3"⟩, ⟨"marsh"⟩, ⟨"heath"⟩, .adjacent⟩, ⟨⟨"e4"⟩, ⟨"marsh"⟩, ⟨"marsh"⟩, .adjacent⟩,
      ⟨⟨"e5"⟩, ⟨"marsh"⟩, ⟨"hill"⟩, .adjacent⟩, ⟨⟨"e6"⟩, ⟨"weir"⟩, ⟨"marsh"⟩, .adjacent⟩,
      ⟨⟨"e7"⟩, ⟨"marsh"⟩, ⟨"hill"⟩, .adjacent⟩]

theorem marsh_triggers :
    marsh.validate = .ok () ∧
      (marsh.entries.map fun entry => (entry.name, entry.triggers)) =
        [("marsh", ["marsh", "hill", "water"]), ("hill", ["marsh"]), ("ford", ["marsh"]),
          ("weir", ["marsh"]), ("heath", ["marsh"])] ∧
      List.Forall₂ marsh.BordersExactly (marsh.nodesOf .location)
        (ofCategory .location marsh.entries) := by
  have accepted : marsh.validate = .ok () := by decide +kernel
  exact ⟨accepted, by decide +kernel, (triggers_exact accepted).1⟩

end StoryWorld
