import StoryWorld.Proofs.Lore.Links
import StoryWorld.Proofs.Lore.Placements
import StoryWorld.Proofs.Lore.Spawns

/-!
# Declaring and enrolling entries

The two passes that make nodes, taken as a whole. After the nodes of the locations have been
declared (`Draft.Declared`), and after the characters and events have been enrolled
(`Draft.Enrolled`), the draft is still in order, the new nodes are its last ones, and the findings
can be read off any later draft. Enrolling also adds the edges of the spawn tables. It declares no
place, so all of the tables lead to the same places (`Draft.SamePlaces`), whichever draft of the
pass they are followed in.

Both descriptions are put together step by step: each has a lemma for nothing, for one step, and for
one run after another.
-/

set_option autoImplicit false

namespace StoryWorld

namespace Draft

/-! ## Declaring several nodes -/

/-- A draft after declaring nodes: they are its last ones, and the findings are their collisions. -/
structure Declared (draft : Draft) (more : List Node) (after : Draft) : Prop where
  indexed : after.Indexed
  nodes : after.nodes = draft.nodes ++ more
  edges : after.edges = draft.edges
  keeps : after.Keeps draft
  findings : ∀ last : Draft, last.Keeps after →
    after.findings = draft.findings ++ more.flatMap last.collisionsOf

theorem Declared.none {draft : Draft} (indexed : draft.Indexed) : Declared draft [] draft where
  indexed := indexed
  nodes := (List.append_nil _).symm
  edges := rfl
  keeps := .refl draft
  findings := fun _ _ => (List.append_nil _).symm

theorem Declared.trans {draft middle after : Draft} {nodes more : List Node}
    (sooner : Declared draft nodes middle) (later : Declared middle more after) :
    Declared draft (nodes ++ more) after where
  indexed := later.indexed
  nodes := by rw [later.nodes, sooner.nodes, List.append_assoc]
  edges := later.edges.trans sooner.edges
  keeps := later.keeps.trans sooner.keeps
  findings := fun last keeps => by
    rw [later.findings last keeps, sooner.findings last (keeps.trans later.keeps),
      List.append_assoc, List.flatMap_append]

theorem Declared.one {draft : Draft} (indexed : draft.Indexed) {node : Node}
    (own : node.id = draft.nextNodeId node.type)
    (placed : ∀ parent, node.parent = some parent →
      ∃ location ∈ draft.nodes, location.id = parent ∧ location.type = .location) :
    Declared draft [node] (draft.declare node) where
  indexed := indexed.declare own placed
  nodes := nodes_declare draft node
  edges := edges_declare draft node
  keeps := keeps_declare draft node
  findings := fun last keeps => by
    rw [indexed.findings_declare own keeps, List.flatMap_singleton]

/-- Declaring the sublocations of a location that is there already. -/
theorem declared_sublocations (settings : GraphSettings) {placed : Placement}
    (isLocation : placed.entry.IsLocation) (entries : List (String × SublocationEntry))
    (start : Nat) {draft : Draft} (indexed : draft.Indexed)
    (place : draft.nodes.length = placed.before + 1 + start)
    (parent : placed.node settings ∈ draft.nodes) :
    let nodes := ((List.range' start entries.length).zip entries).map (placed.sublocation settings)
    Declared draft nodes (nodes.foldl declare draft) := by
  induction entries generalizing start draft with
  | nil => exact .none indexed
  | cons entry rest ih =>
    simp only [List.length_cons, List.range'_succ, List.zip_cons_cons, List.map_cons,
      List.foldl_cons]
    let node := placed.sublocation settings (start, entry)
    have own : node.id = draft.nextNodeId node.type := by
      change ElementId.numbered _ (placed.before + 1 + start + 1) = .numbered _ (_ + 1)
      rw [place]
      rfl
    have typed : (placed.node settings).type = .location := by
      have category : placed.entry.category = .location := isLocation
      rw [Placement.type_node, Entry.nodeType, category]
      rfl
    have first : Declared draft [node] (draft.declare node) := by
      refine .one indexed own fun other isPlaced => ?_
      cases isPlaced
      exact ⟨placed.node settings, parent, rfl, typed⟩
    have length : (draft.declare node).nodes.length = placed.before + 1 + (start + 1) := by
      simp [place, Nat.add_assoc]
    have still : placed.node settings ∈ (draft.declare node).nodes := by
      rw [nodes_declare]
      exact List.mem_append_left _ parent
    exact first.trans (ih (start + 1) first.indexed length still)

/-- Declaring all nodes of a location. -/
theorem declared_placement (settings : GraphSettings) {placed : Placement}
    (isLocation : placed.entry.IsLocation) {draft : Draft} (indexed : draft.Indexed)
    (place : placed.before = draft.nodes.length) :
    Declared draft (placed.nodes settings) ((placed.nodes settings).foldl declare draft) := by
  have first : Declared draft [placed.node settings] (draft.declare (placed.node settings)) := by
    refine .one indexed ?_ fun parent isPlaced => ?_
    · rw [nextNodeId, ← place, Placement.type_node]
      rfl
    · rw [Placement.parent_node] at isPlaced
      cases isPlaced
  have length : (draft.declare (placed.node settings)).nodes.length = placed.before + 1 + 0 := by
    simp [place]
  have there : placed.node settings ∈ (draft.declare (placed.node settings)).nodes := by
    simp
  rw [Placement.nodes, Placement.sublocations, if_pos isLocation, sublocationsOf,
    List.range_eq_range']
  exact first.trans (declared_sublocations settings isLocation _ 0 first.indexed length there)

/-- Declaring all nodes of locations one after another. -/
theorem declared_placements (config : Config) (total : Nat) {items : List (Nat × Entry)}
    (locations : ∀ item ∈ items, item.2.IsLocation) {draft : Draft} (indexed : draft.Indexed) :
    let nodes := (placements config total draft.nodes.length items).flatMap
      (Placement.nodes config.graph)
    Declared draft nodes (nodes.foldl declare draft) := by
  induction items generalizing draft with
  | nil => exact .none indexed
  | cons item rest ih =>
    let placed : Placement :=
      ⟨draft.nodes.length, config.layout.gridPosition item.1 total, item.2⟩
    have first : Declared draft (placed.nodes config.graph)
        ((placed.nodes config.graph).foldl declare draft) :=
      declared_placement config.graph (locations item (List.mem_cons_self ..)) indexed rfl
    have length : ((placed.nodes config.graph).foldl declare draft).nodes.length =
        draft.nodes.length + (placed.nodes config.graph).length := by
      rw [first.nodes, List.length_append]
    have others := ih (fun other member => locations other (List.mem_cons_of_mem _ member))
      first.indexed
    rw [length] at others
    simp only [placements, List.flatMap_cons, List.foldl_append]
    exact first.trans others

/-! ## Spawn edges -/

/-- What a spawn table leads to depends only on what is known of places. -/
theorem spawnTargets_congr (settings : GraphSettings) {draft other : Draft}
    (locations : other.locations = draft.locations)
    (sublocations : other.sublocations = draft.sublocations) (table : Table String Float) :
    spawnTargets settings other table = spawnTargets settings draft table := by
  have step : SpawnTargets.follow settings other = SpawnTargets.follow settings draft := by
    funext found spawn
    simp only [SpawnTargets.follow, locations, sublocations]
  rw [spawnTargets, spawnTargets, step]

/-- A key that names a sublocation is no keyword of a location, and leads to the first sublocation
that it names. -/
theorem Indexed.of_namedSublocation? {draft : Draft} (indexed : draft.Indexed) {key : String}
    {ref : SublocationRef} (named : draft.namedSublocation? key = some ref) :
    declarer? draft.nodes .location (Text.lowercase key) = none ∧
      sublocationNamed? draft.nodes (Text.lowercase key) = some ref := by
  unfold namedSublocation? namedLocation? at named
  rw [indexed.locations, indexed.sublocations] at named
  split at named
  · cases named
  · rename_i free
    exact ⟨Option.not_isSome_iff_eq_none.1 free, named⟩

/-- Every place that a key leads to is a location of the draft. -/
theorem Indexed.location_of_home? {draft : Draft} (indexed : draft.Indexed) {key : String}
    {home : ElementId} (found : draft.home? key = some home) :
    ∃ location ∈ draft.nodes, location.id = home ∧ location.type = .location := by
  rcases Option.or_eq_some_iff.1 found with direct | ⟨-, through⟩
  · rw [namedLocation?, indexed.locations] at direct
    obtain ⟨location, member, own, typed, -⟩ := declarer?_eq_some direct
    exact ⟨location, member, own, typed⟩
  · obtain ⟨ref, named, rfl⟩ := Option.map_eq_some_iff.1 through
    obtain ⟨node, member, own, -⟩ :=
      sublocationNamed?_eq_some (indexed.of_namedSublocation? named).2
    exact indexed.parents node member ref.parent (Node.ref?_eq_some own).1

/-- Every target of a spawn table is a location of the draft. -/
theorem Indexed.location_of_target {draft : Draft} (indexed : draft.Indexed)
    {settings : GraphSettings} {table : Table String Float}
    {target : ElementId × Float × Table String Float}
    (member : target ∈ (spawnTargets settings draft table).targets.entries) :
    ∃ location ∈ draft.nodes, location.id = target.1 ∧ location.type = .location := by
  rw [entries_spawnTargets] at member
  obtain ⟨home, listed, rfl⟩ := List.mem_map.1 member
  obtain ⟨spawn, -, found⟩ := List.mem_filterMap.1 (mem_distinct.1 listed)
  exact indexed.location_of_home? found

end Draft

namespace Placement

/-- The links of the spawn table of an entry; a global event has none. -/
def spawnLinks (settings : GraphSettings) (last : Draft) (placed : Placement) : List Link :=
  if placed.entry.isAnywhere then []
  else
    (Draft.spawnTargets settings last placed.entry.spawnTable).targets.entries.map fun target =>
      ⟨placed.id, target.1, .spawn target.2.1 target.2.2⟩

/-- The findings about keys of the spawn table of an entry that lead nowhere. -/
def lostSpawns (settings : GraphSettings) (last : Draft) (placed : Placement) : List Finding :=
  if placed.entry.isAnywhere then []
  else
    (Draft.spawnTargets settings last placed.entry.spawnTable).unresolved.map
      (.unresolvedReference placed.entry.name .canSpawnAt)

theorem spawnLinks_congr (settings : GraphSettings) {draft other : Draft}
    (locations : other.locations = draft.locations)
    (sublocations : other.sublocations = draft.sublocations) (placed : Placement) :
    placed.spawnLinks settings other = placed.spawnLinks settings draft := by
  rw [spawnLinks, spawnLinks, Draft.spawnTargets_congr settings locations sublocations]

theorem lostSpawns_congr (settings : GraphSettings) {draft other : Draft}
    (locations : other.locations = draft.locations)
    (sublocations : other.sublocations = draft.sublocations) (placed : Placement) :
    placed.lostSpawns settings other = placed.lostSpawns settings draft := by
  rw [lostSpawns, lostSpawns, Draft.spawnTargets_congr settings locations sublocations]

/-- The node of an entry is a global event only if the entry is for everywhere. -/
theorem isGlobalEvent_node (settings : GraphSettings) (placed : Placement) :
    (placed.node settings).isGlobalEvent = placed.entry.isAnywhere := by
  unfold Node.isGlobalEvent node Draft.nodeOf Entry.nodeKind Entry.isAnywhere
  cases placed.entry.category <;> rfl

end Placement

namespace Draft

/-- The links of a spawn table may be made from the node of its entry. -/
theorem Indexed.admits_spawnLinks {draft : Draft} (indexed : draft.Indexed)
    (settings : GraphSettings) {placed : Placement} (cast : placed.entry.IsCast)
    (there : placed.node settings ∈ draft.nodes) :
    ∀ link ∈ placed.spawnLinks settings draft, draft.Admits link := by
  intro link member
  unfold Placement.spawnLinks at member
  split at member
  · cases member
  · rename_i bound
    obtain ⟨target, listed, rfl⟩ := List.mem_map.1 member
    obtain ⟨location, inside, own, typed⟩ := indexed.location_of_target listed
    refine ⟨placed.node settings, there, location, inside, rfl, own, ?_⟩
    have differ : (placed.node settings).id ≠ location.id := by
      intro same
      have equal := eq_of_id_eq indexed.nodup there inside same
      rw [← equal, Placement.type_node, Entry.nodeType] at typed
      rcases cast with category | category <;> rw [category] at typed <;> cases typed
    have fits : connectionType (placed.node settings).type location.type = some .spawn := by
      rw [Placement.type_node, Entry.nodeType, typed]
      rcases cast with category | category <;> rw [category] <;> rfl
    refine validateConnection_eq_ok_iff.2 ⟨differ, fits, fun anywhere => bound ?_⟩
    rw [← Placement.isGlobalEvent_node settings]
    exact anywhere.2

/-- The spawn edges of an entry are those of its links, and the keys that lead nowhere are found. -/
theorem Indexed.addSpawns_eq {draft : Draft} (indexed : draft.Indexed)
    (settings : GraphSettings) {placed : Placement} (cast : placed.entry.IsCast)
    (there : placed.node settings ∈ draft.nodes) (bound : placed.entry.isAnywhere = false) :
    draft.addSpawns settings placed.id placed.entry =
      (draft.addLinks (placed.spawnLinks settings draft)).report
        (placed.lostSpawns settings draft) := by
  have admitted := indexed.admits_spawnLinks settings cast there
  have linked := foldl_link (draft.report (placed.lostSpawns settings draft))
    indexed.nodup admitted
  rw [Placement.spawnLinks, bound, if_neg Bool.false_ne_true, List.foldl_map] at linked
  rw [Placement.lostSpawns, bound, if_neg Bool.false_ne_true] at linked ⊢
  rw [Placement.spawnLinks, bound, if_neg Bool.false_ne_true]
  exact linked

/-! ## Enrolling several entries -/

/-- The draft knows the same places as another one. -/
structure SamePlaces (other draft : Draft) : Prop where
  locations : other.locations = draft.locations
  sublocations : other.sublocations = draft.sublocations

/-- A draft after enrolling characters and events: their nodes are its last ones, their links its
last edges, and no place has been declared. -/
structure Enrolled (settings : GraphSettings) (draft : Draft) (placed : List Placement)
    (after : Draft) : Prop where
  indexed : after.Indexed
  nodes : after.nodes = draft.nodes ++ placed.map (Placement.node settings)
  keeps : after.Keeps draft
  places : after.SamePlaces draft
  edges : after.edges = draft.edges ++
    numberedEdges draft.edges.length (placed.flatMap (Placement.spawnLinks settings draft))
  findings : ∀ last : Draft, last.Keeps after → last.SamePlaces after →
    after.findings = draft.findings ++ placed.flatMap fun one =>
      last.collisionsOf (one.node settings) ++ one.lostSpawns settings last

theorem Enrolled.none (settings : GraphSettings) {draft : Draft} (indexed : draft.Indexed) :
    Enrolled settings draft [] draft where
  indexed := indexed
  nodes := (List.append_nil _).symm
  keeps := .refl draft
  places := ⟨rfl, rfl⟩
  edges := (List.append_nil _).symm
  findings := fun _ _ _ => (List.append_nil _).symm

theorem Enrolled.trans {settings : GraphSettings} {draft middle after : Draft}
    {placed more : List Placement} (sooner : Enrolled settings draft placed middle)
    (later : Enrolled settings middle more after) :
    Enrolled settings draft (placed ++ more) after where
  indexed := later.indexed
  nodes := by rw [later.nodes, sooner.nodes, List.append_assoc, List.map_append]
  keeps := later.keeps.trans sooner.keeps
  places := ⟨later.places.locations.trans sooner.places.locations,
    later.places.sublocations.trans sooner.places.sublocations⟩
  edges := by
    have same : Placement.spawnLinks settings middle = Placement.spawnLinks settings draft :=
      funext (Placement.spawnLinks_congr settings sooner.places.locations
        sooner.places.sublocations)
    rw [later.edges, sooner.edges, same, List.flatMap_append, numberedEdges_append,
      List.append_assoc, List.length_append, length_numberedEdges]
  findings := fun last keeps places => by
    have earlier : last.SamePlaces middle := ⟨places.locations.trans later.places.locations,
      places.sublocations.trans later.places.sublocations⟩
    rw [later.findings last keeps places, sooner.findings last (keeps.trans later.keeps) earlier,
      List.flatMap_append, List.append_assoc]

/-- Declaring the node of a character or an event declares no place. -/
theorem samePlaces_declare (settings : GraphSettings) (draft : Draft) {placed : Placement}
    (cast : placed.entry.IsCast) : (draft.declare (placed.node settings)).SamePlaces draft where
  locations := by
    refine locations_declare_of_ne _ _ fun typed => ?_
    rw [Placement.type_node, Entry.nodeType] at typed
    rcases cast with category | category <;> rw [category] at typed <;> cases typed
  sublocations := sublocations_declare_of_none _ _ (Placement.ref?_node settings placed)

/-- Enrolling one character or event. -/
theorem enrolled_one (settings : GraphSettings) {placed : Placement}
    (cast : placed.entry.IsCast) {draft : Draft} (indexed : draft.Indexed)
    (place : placed.before = draft.nodes.length) :
    Enrolled settings draft [placed] (draft.enrol settings placed) := by
  have first : Declared draft [placed.node settings] (draft.declare (placed.node settings)) := by
    refine .one indexed ?_ fun parent isPlaced => ?_
    · rw [nextNodeId, ← place, Placement.type_node]
      rfl
    · rw [Placement.parent_node] at isPlaced
      cases isPlaced
  have places := samePlaces_declare settings draft cast
  have links := Placement.spawnLinks_congr settings places.locations places.sublocations placed
  cases bound : placed.entry.isAnywhere with
  | true =>
    have whole : draft.enrol settings placed = draft.declare (placed.node settings) := by
      rw [enrol, bound, if_pos rfl]
    rw [whole]
    refine ⟨first.indexed, first.nodes, first.keeps, places, ?_, fun last keeps _ => ?_⟩
    · rw [first.edges]
      simp [Placement.spawnLinks, bound, numberedEdges]
    · rw [first.findings last keeps]
      simp [Placement.lostSpawns, bound]
  | false =>
    have there : placed.node settings ∈ (draft.declare (placed.node settings)).nodes := by
      simp
    have whole : draft.enrol settings placed =
        ((draft.declare (placed.node settings)).addLinks (placed.spawnLinks settings draft)).report
          (placed.lostSpawns settings (draft.declare (placed.node settings))) := by
      rw [enrol, bound, if_neg Bool.false_ne_true,
        first.indexed.addSpawns_eq settings cast there bound, links]
    rw [whole]
    refine ⟨?_, first.nodes, ⟨first.keeps.1, first.keeps.2, first.keeps.3⟩,
      ⟨places.1, places.2⟩, ?_, fun last keeps same => ?_⟩
    · exact ⟨first.indexed.numbered, first.indexed.parents, first.indexed.locations,
        first.indexed.characters, first.indexed.sublocations⟩
    · simp [addLinks, report]
    · have lost := Placement.lostSpawns_congr settings same.locations same.sublocations placed
      have found := first.findings last ⟨keeps.1, keeps.2, keeps.3⟩
      rw [List.flatMap_singleton, lost, ← List.append_assoc]
      rw [List.flatMap_singleton] at found
      rw [← found]
      rfl

/-- Enrolling characters and events one after another. -/
theorem enrolled_placements (config : Config) (total : Nat) {items : List (Nat × Entry)}
    (cast : ∀ item ∈ items, item.2.IsCast) {draft : Draft} (indexed : draft.Indexed) :
    Enrolled config.graph draft (placements config total draft.nodes.length items)
      ((placements config total draft.nodes.length items).foldl (enrol config.graph) draft) := by
  induction items generalizing draft with
  | nil => exact .none config.graph indexed
  | cons item rest ih =>
    let placed : Placement :=
      ⟨draft.nodes.length, config.layout.gridPosition item.1 total, item.2⟩
    have isCast := cast item (List.mem_cons_self ..)
    have first : Enrolled config.graph draft [placed] (draft.enrol config.graph placed) :=
      enrolled_one config.graph isCast indexed rfl
    have single : ¬ placed.entry.IsLocation := isCast.not_isLocation
    have length : (draft.enrol config.graph placed).nodes.length =
        draft.nodes.length + (placed.nodes config.graph).length := by
      rw [nodes_enrol, Placement.nodes, Placement.sublocations_of_not_isLocation _ _ single,
        List.length_append]
    have others := ih (fun other member => cast other (List.mem_cons_of_mem _ member))
      first.indexed
    rw [length] at others
    rw [placements, List.foldl_cons]
    exact first.trans others

end Draft

end StoryWorld
