import StoryWorld.Graph.Connection
import StoryWorld.Graph.Snapshot

/-!
# Valid snapshots

`Snapshot.validate` looks for the first thing that is wrong. What it accepts is said here without
any order: no identity stands for two elements, every sublocation has a location of the snapshot as
its parent, and both ends of every edge are nodes of the snapshot (`validate_eq_ok_iff`).

In a snapshot where no two nodes share an identity, looking for the first node or for the last one
with an identity finds the one that has it (`node?_of_mem`, `lastNode?_of_mem`).
-/

set_option autoImplicit false

namespace StoryWorld

theorem firstRepeat?_eq_none_iff {α : Type} [DecidableEq α] {items seen : List α} :
    firstRepeat? seen items = none ↔ items.Nodup ∧ ∀ item ∈ items, item ∉ seen := by
  induction items generalizing seen with
  | nil => simp [firstRepeat?]
  | cons item rest ih =>
    unfold firstRepeat?
    by_cases known : item ∈ seen
    · simp [known]
    · rw [if_neg known, ih, List.nodup_cons]
      constructor
      · rintro ⟨nodup, fresh⟩
        refine ⟨⟨fun member => fresh item member (List.mem_cons_self ..), nodup⟩, ?_⟩
        intro other member
        rcases List.mem_cons.1 member with rfl | member
        · exact known
        · exact fun before => fresh other member (List.mem_cons_of_mem _ before)
      · rintro ⟨⟨absent, nodup⟩, fresh⟩
        refine ⟨nodup, fun other member => ?_⟩
        intro before
        rcases List.mem_cons.1 before with rfl | before
        · exact absent member
        · exact fresh other (List.mem_cons_of_mem _ member) before

/-- What has a parent is a sublocation. -/
theorem Node.type_of_parent {node : Node} {parent : ElementId}
    (placed : node.parent = some parent) : node.type = .sublocation := by
  unfold Node.parent at placed
  unfold Node.type
  cases kind : node.kind <;> rw [kind] at placed <;> first | rfl | cases placed

theorem Node.kind_of_parent {node : Node} {parent : ElementId}
    (placed : node.parent = some parent) : node.kind = .sublocation parent := by
  unfold Node.parent at placed
  cases kind : node.kind <;> rw [kind] at placed <;> cases placed
  rfl

theorem Node.kind_of_location {node : Node} (typed : node.type = .location) :
    node.kind = .location := by
  unfold Node.type at typed
  cases kind : node.kind <;> rw [kind] at typed <;> first | rfl | cases typed

theorem Node.kind_of_character {node : Node} (typed : node.type = .character) :
    ∃ disabledFor, node.kind = .character disabledFor := by
  unfold Node.type at typed
  cases kind : node.kind <;> rw [kind] at typed <;> first | exact ⟨_, rfl⟩ | cases typed

theorem Node.kind_of_event {node : Node} (typed : node.type = .event) :
    ∃ timeFilter isGlobal chance, node.kind = .event timeFilter isGlobal chance := by
  unfold Node.type at typed
  cases kind : node.kind <;> rw [kind] at typed <;> first | exact ⟨_, _, _, rfl⟩ | cases typed

/-- A sublocation has a parent. -/
theorem Node.parent_of_type {node : Node} (typed : node.type = .sublocation) :
    ∃ parent, node.parent = some parent := by
  unfold Node.type at typed
  unfold Node.parent
  cases kind : node.kind <;> rw [kind] at typed <;> first | exact ⟨_, rfl⟩ | cases typed

/-- An edge is accepted between two different nodes of the right kinds, unless it would make an
event that happens anywhere spawn somewhere. -/
theorem validateConnection_eq_ok_iff {source target : Node} {requested : EdgeType} :
    validateConnection source target requested = .ok () ↔
      source.id ≠ target.id ∧ connectionType source.type target.type = some requested ∧
        ¬ (requested = .spawn ∧ source.isGlobalEvent = true) := by
  unfold validateConnection
  by_cases same : source.id = target.id
  · simp [same]
  · by_cases fits : connectionType source.type target.type = some requested
    · by_cases anywhere : requested = .spawn ∧ source.isGlobalEvent = true <;>
        simp [same, fits, anywhere]
    · simp [same, fits]

/-! ## Finding the node with an identity -/

/-- Where no two items share a key, each is the one that is found under its own. -/
theorem find?_key_of_mem {α κ : Type} [DecidableEq κ] {key : α → κ} {items : List α}
    (distinct : (items.map key).Nodup) {item : α} (member : item ∈ items) :
    (items.find? fun other => decide (key other = key item)) = some item := by
  induction items with
  | nil => cases member
  | cons first rest ih =>
    rw [List.map_cons, List.nodup_cons] at distinct
    rw [List.find?_cons]
    rcases List.mem_cons.1 member with rfl | later
    · simp
    · have differs : key first ≠ key item := fun same =>
        distinct.1 (same ▸ List.mem_map_of_mem later)
      simpa [differs] using ih distinct.2 later

/-- Where no two nodes share an identity, each is the one that is found under its own. -/
theorem find?_id_of_mem {nodes : List Node} (distinct : (nodes.map Node.id).Nodup) {node : Node}
    (member : node ∈ nodes) :
    (nodes.find? fun other => decide (other.id = node.id)) = some node :=
  find?_key_of_mem distinct member

/-- Where no two nodes share an identity, nodes with the same one are the same. -/
theorem eq_of_id_eq {nodes : List Node} (distinct : (nodes.map Node.id).Nodup) {node other : Node}
    (member : node ∈ nodes) (otherMember : other ∈ nodes) (same : node.id = other.id) :
    node = other := by
  have found := find?_id_of_mem distinct member
  rw [same, find?_id_of_mem distinct otherMember] at found
  exact (Option.some.inj found).symm

theorem find?_id_eq_some {nodes : List Node} {id : ElementId} {node : Node}
    (found : (nodes.find? fun other => decide (other.id = id)) = some node) :
    node ∈ nodes ∧ node.id = id :=
  ⟨List.mem_of_find?_eq_some found, by simpa using List.find?_some found⟩

namespace Snapshot

theorem node?_of_mem {world : Snapshot} (distinct : (world.nodes.map Node.id).Nodup) {node : Node}
    (member : node ∈ world.nodes) : world.node? node.id = some node :=
  find?_id_of_mem distinct member

theorem lastNode?_of_mem {world : Snapshot} (distinct : (world.nodes.map Node.id).Nodup)
    {node : Node} (member : node ∈ world.nodes) : world.lastNode? node.id = some node :=
  find?_id_of_mem (((List.reverse_perm world.nodes).map Node.id).nodup_iff.2 distinct)
    (List.mem_reverse.2 member)

theorem node?_eq_some {world : Snapshot} {id : ElementId} {node : Node}
    (found : world.node? id = some node) : node ∈ world.nodes ∧ node.id = id :=
  find?_id_eq_some found

theorem lastNode?_eq_some {world : Snapshot} {id : ElementId} {node : Node}
    (found : world.lastNode? id = some node) : node ∈ world.nodes ∧ node.id = id := by
  obtain ⟨member, same⟩ := find?_id_eq_some found
  exact ⟨List.mem_reverse.1 member, same⟩

/-! ## Validity -/

/-- A node of a snapshot has the identity. -/
def HasNode (world : Snapshot) (id : ElementId) : Prop := ∃ node ∈ world.nodes, node.id = id

/-- A location of a snapshot has the identity. -/
def HasLocation (world : Snapshot) (id : ElementId) : Prop :=
  ∃ node ∈ world.nodes, node.id = id ∧ node.type = .location

/-- Nothing is wrong with a snapshot. -/
structure Valid (world : Snapshot) : Prop where
  ids_nodup : world.ids.Nodup
  parents : ∀ node ∈ world.nodes, ∀ parent, node.parent = some parent → world.HasLocation parent
  ends : ∀ edge ∈ world.edges, world.HasNode edge.source ∧ world.HasNode edge.target

theorem Valid.nodes_nodup {world : Snapshot} (valid : world.Valid) :
    (world.nodes.map Node.id).Nodup :=
  (List.nodup_append.1 valid.ids_nodup).1

theorem Valid.edges_nodup {world : Snapshot} (valid : world.Valid) :
    (world.edges.map Edge.id).Nodup :=
  (List.nodup_append.1 valid.ids_nodup).2.1

theorem isSome_node?_iff {world : Snapshot} {id : ElementId} :
    (world.node? id).isSome = true ↔ world.HasNode id := by
  simp [node?, HasNode]

theorem orphan?_eq_none_iff {world : Snapshot} (distinct : (world.nodes.map Node.id).Nodup)
    {node : Node} :
    world.orphan? node = none ↔
      ∀ parent, node.parent = some parent → world.HasLocation parent := by
  have isLocation : ∀ parent, (world.node? parent).map Node.type = some .location ↔
      world.HasLocation parent := by
    intro parent
    constructor
    · intro found
      obtain ⟨location, found, type⟩ := Option.map_eq_some_iff.1 found
      exact ⟨location, (node?_eq_some found).1, (node?_eq_some found).2, type⟩
    · rintro ⟨location, member, rfl, type⟩
      rw [node?_of_mem distinct member, Option.map_some, type]
  unfold orphan?
  cases node.parent with
  | none => simp
  | some parent => simp [isLocation]

theorem dangling?_eq_none_iff {world : Snapshot} {edge : Edge} :
    world.dangling? edge = none ↔ world.HasNode edge.source ∧ world.HasNode edge.target := by
  simp [dangling?, isSome_node?_iff]

/-- **What is accepted.** Exactly the valid snapshots are. -/
theorem validate_eq_ok_iff {world : Snapshot} : world.validate = .ok () ↔ world.Valid := by
  have accepted : world.validate = .ok () ↔ world.complaint? = none := by
    unfold validate
    cases world.complaint? <;> simp
  rw [accepted, complaint?, Option.or_eq_none_iff, Option.or_eq_none_iff, Option.map_eq_none_iff,
    firstRepeat?_eq_none_iff, List.findSome?_eq_none_iff, List.findSome?_eq_none_iff]
  constructor
  · rintro ⟨⟨distinct, -⟩, parents, ends⟩
    have nodes := (List.nodup_append.1 distinct).1
    exact ⟨distinct, fun node member => (orphan?_eq_none_iff nodes).1 (parents node member),
      fun edge member => dangling?_eq_none_iff.1 (ends edge member)⟩
  · intro valid
    exact ⟨⟨valid.ids_nodup, by simp⟩,
      fun node member => (orphan?_eq_none_iff valid.nodes_nodup).2 (valid.parents node member),
      fun edge member => dangling?_eq_none_iff.2 (valid.ends edge member)⟩

end Snapshot

end StoryWorld
