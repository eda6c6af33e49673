import StoryWorld.Proofs.Graph.Validity
import StoryWorld.Proofs.Store.Change
import StoryWorld.Proofs.Table

/-!
# Consistency of stores

A store is consistent when its two tables fit together and describe a world: every element stands
under its own identity, no identity is both a node and an edge, the ends of edges are nodes, the
parents of sublocations are locations, and what is selected is there.

Consistency alone is not kept by adding an element, since the new identity might be taken. What is
kept is consistency together with the rule that the numbering is past every stored identity
(`Store.Sound`): an identity whose text has an ordinal has one below the next of its scope. Loaded
snapshots may use any texts as identities, so this is said of texts and not of how an identity came
about.

`run_consistent` is the statement about whole editing sessions.
-/

set_option autoImplicit false

namespace StoryWorld

/-! ## Consistent stores -/

namespace Store

/-- An element is stored under the identity. -/
def Holds (store : Store) (id : ElementId) : Prop :=
  id ∈ store.nodes.keys ∨ id ∈ store.edges.keys

/-- A location is stored under the identity. -/
def HoldsLocation (store : Store) (id : ElementId) : Prop :=
  ∃ location, store.nodes.get? id = some location ∧ location.type = .location

/-- The parts of a store fit together. -/
structure Consistent (store : Store) : Prop where
  node_id : ∀ id node, store.nodes.get? id = some node → node.id = id
  edge_id : ∀ id edge, store.edges.get? id = some edge → edge.id = id
  disjoint : ∀ id, id ∈ store.nodes.keys → id ∉ store.edges.keys
  ends : ∀ id edge, store.edges.get? id = some edge →
    edge.source ∈ store.nodes.keys ∧ edge.target ∈ store.nodes.keys
  parents : ∀ id node parent, store.nodes.get? id = some node → node.parent = some parent →
    store.HoldsLocation parent
  selected : ∀ id, store.selection = some id → store.Holds id

/-- A consistent store whose numbering is past all that is stored. -/
structure Sound (store : Store) : Prop where
  consistent : store.Consistent
  bounded : store.numbering.Bounded
  past : ∀ id, store.Holds id → store.numbering.Past id

variable {store after : Store}

theorem holds_iff_isSome_element? {id : ElementId} :
    (store.element? id).isSome = true ↔ store.Holds id := by
  simp [element?, Holds, Table.mem_keys_iff, Option.isSome_iff_exists]

theorem get?_nodes_without {gone : Removal} {id : ElementId} {node : Node} :
    (store.without gone).nodes.get? id = some node ↔
      store.nodes.get? id = some node ∧ id ∉ gone.nodes := by
  simp [without, Table.get?_filter, Option.filter_eq_some_iff]

theorem get?_edges_without {gone : Removal} {id : ElementId} {edge : Edge} :
    (store.without gone).edges.get? id = some edge ↔
      store.edges.get? id = some edge ∧ id ∉ gone.edges := by
  simp [without, Table.get?_filter, Option.filter_eq_some_iff]

theorem mem_keys_nodes_without {gone : Removal} {id : ElementId} :
    id ∈ (store.without gone).nodes.keys ↔ id ∈ store.nodes.keys ∧ id ∉ gone.nodes := by
  simp [without, Table.mem_keys_filter]

theorem mem_keys_edges_without {gone : Removal} {id : ElementId} :
    id ∈ (store.without gone).edges.keys ↔ id ∈ store.edges.keys ∧ id ∉ gone.edges := by
  simp [without, Table.mem_keys_filter]

/-! ## The snapshot of a consistent store -/

namespace Consistent

variable (consistent : store.Consistent)
include consistent

theorem map_id_nodes : store.nodes.values.map Node.id = store.nodes.keys := by
  rw [Table.values, Table.keys, List.map_map]
  refine List.map_congr_left fun entry member => ?_
  exact consistent.node_id entry.1 entry.2 (Table.get?_eq_some_iff.2 member)

theorem map_id_edges : store.edges.values.map Edge.id = store.edges.keys := by
  rw [Table.values, Table.keys, List.map_map]
  refine List.map_congr_left fun entry member => ?_
  exact consistent.edge_id entry.1 entry.2 (Table.get?_eq_some_iff.2 member)

theorem ids_snapshot : store.snapshot.ids = store.nodes.keys ++ store.edges.keys := by
  rw [Snapshot.ids, snapshot, consistent.map_id_nodes, consistent.map_id_edges]

theorem hasNode_snapshot {id : ElementId} (stored : id ∈ store.nodes.keys) :
    store.snapshot.HasNode id := by
  obtain ⟨node, found⟩ := Table.mem_keys_iff.1 stored
  exact ⟨node, Table.mem_values_iff.2 ⟨id, found⟩, consistent.node_id id node found⟩

/-- The snapshot of a consistent store is valid. -/
theorem valid_snapshot : store.snapshot.Valid where
  ids_nodup := by
    rw [consistent.ids_snapshot, List.nodup_append]
    refine ⟨store.nodes.keys_nodup, store.edges.keys_nodup, ?_⟩
    rintro id node _ edge rfl
    exact consistent.disjoint id node edge
  parents := by
    intro node member parent placed
    obtain ⟨id, found⟩ := Table.mem_values_iff.1 member
    obtain ⟨location, here, typed⟩ := consistent.parents id node parent found placed
    exact ⟨location, Table.mem_values_iff.2 ⟨parent, here⟩,
      consistent.node_id parent location here, typed⟩
  ends := by
    intro edge member
    obtain ⟨id, found⟩ := Table.mem_values_iff.1 member
    obtain ⟨fromNode, toNode⟩ := consistent.ends id edge found
    exact ⟨consistent.hasNode_snapshot fromNode, consistent.hasNode_snapshot toNode⟩

end Consistent

/-! ## What a deletion takes -/

/-- What goes when an element is deleted: an edge alone, or a node with its sublocations and the
edges at them. -/
theorem removal_cases {id : ElementId} {gone : Removal} (found : store.removal id = .ok gone) :
    (id ∈ store.edges.keys ∧ gone.nodes = []) ∨
      id ∈ store.nodes.keys ∧
        (∀ other, other ∈ gone.nodes ↔
          other ∈ store.nodes.keys ∧ other ∈ store.doomedNodes id) ∧
        ∀ other, other ∈ gone.edges ↔
          other ∈ store.edges.keys ∧ other ∈ store.doomedEdges (store.doomedNodes id) := by
  unfold removal at found
  split at found
  · rename_i isEdge
    cases found
    exact Or.inl ⟨of_decide_eq_true isEdge, rfl⟩
  · split at found
    · rename_i isNode
      cases found
      refine Or.inr ⟨of_decide_eq_true isNode, ?_, ?_⟩ <;> intro other <;> simp
    · cases found

/-- A stored node goes with a deleted one just if it is that node or lies in it. -/
theorem Consistent.mem_doomedNodes_iff (consistent : store.Consistent) {id other : ElementId}
    {node : Node} (found : store.nodes.get? other = some node) :
    other ∈ store.doomedNodes id ↔ other = id ∨ node.parent = some id := by
  rw [doomedNodes, List.mem_cons]
  refine or_congr_right ⟨fun inside => ?_, fun placed => ?_⟩
  · obtain ⟨room, member, same⟩ := List.mem_map.1 inside
    obtain ⟨stored, placed⟩ := List.mem_filter.1 member
    obtain ⟨key, here⟩ := Table.mem_values_iff.1 stored
    have own : key = other := (consistent.node_id key room here).symm.trans same
    rw [own, found] at here
    cases here
    exact of_decide_eq_true placed
  · exact List.mem_map.2 ⟨node,
      List.mem_filter.2 ⟨Table.mem_values_iff.2 ⟨other, found⟩, decide_eq_true placed⟩,
      consistent.node_id other node found⟩

/-- A stored edge goes with some nodes just if one of its ends is among them. -/
theorem Consistent.mem_doomedEdges_iff (consistent : store.Consistent) {nodes : List ElementId}
    {other : ElementId} {edge : Edge} (found : store.edges.get? other = some edge) :
    other ∈ store.doomedEdges nodes ↔ edge.source ∈ nodes ∨ edge.target ∈ nodes := by
  refine ⟨fun inside => ?_, fun doomed => ?_⟩
  · obtain ⟨copy, member, same⟩ := List.mem_map.1 inside
    obtain ⟨stored, doomed⟩ := List.mem_filter.1 member
    obtain ⟨key, here⟩ := Table.mem_values_iff.1 stored
    have own : key = other := (consistent.edge_id key copy here).symm.trans same
    rw [own, found] at here
    cases here
    exact of_decide_eq_true doomed
  · exact List.mem_map.2 ⟨edge,
      List.mem_filter.2 ⟨Table.mem_values_iff.2 ⟨other, found⟩, decide_eq_true doomed⟩,
      consistent.edge_id other edge found⟩

/-! ## What each change keeps -/

namespace Sound

theorem empty (settings : GraphSettings) : (Store.empty settings).Sound where
  consistent :=
    { node_id := fun _ _ found => by cases found
      edge_id := fun _ _ found => by cases found
      disjoint := fun _ member => by cases member
      ends := fun _ _ found => by cases found
      parents := fun _ _ _ found => by cases found
      selected := fun _ selected => by cases selected }
  bounded := Numbering.bounded_start
  past := fun _ stored => by rcases stored with member | member <;> cases member

variable (sound : store.Sound)
include sound

/-- A new identity is not that of a stored element. -/
theorem not_holds {kind : IdKind} {id : ElementId} {numbering : Numbering}
    (allocated : store.numbering.allocate kind = .ok (id, numbering)) : ¬ store.Holds id :=
  fun stored => (sound.past id stored).ne_of_allocate sound.bounded allocated rfl

theorem nodeAdded {type : NodeType} {id : ElementId} {numbering : Numbering} {node : Node}
    (allocated : store.numbering.allocate (.node type) = .ok (id, numbering)) (own : node.id = id)
    (placed : ∀ parent, node.parent = some parent → store.HoldsLocation parent) :
    Sound { store with nodes := store.nodes.insert id node, numbering := numbering } := by
  have consistent := sound.consistent
  have fresh := sound.not_holds allocated
  have keeps : ∀ other, store.HoldsLocation other →
      HoldsLocation { store with nodes := store.nodes.insert id node, numbering := numbering }
        other := by
    rintro other ⟨location, found, typed⟩
    refine ⟨location, ?_, typed⟩
    have differs : other ≠ id := by
      rintro rfl
      exact fresh (Or.inl (mem_keys_of_get? found))
    rw [Table.get?_insert, if_neg differs, found]
  refine ⟨⟨?_, consistent.edge_id, ?_, ?_, ?_, ?_⟩, sound.bounded.allocate allocated, ?_⟩
  · intro other stored found
    rw [Table.get?_insert] at found
    split at found
    · cases found
      exact own.trans (by assumption : other = id).symm
    · exact consistent.node_id other stored found
  · intro other member
    rcases Table.mem_keys_insert.1 member with rfl | member
    · exact fun isEdge => fresh (Or.inr isEdge)
    · exact consistent.disjoint other member
  · intro other edge found
    obtain ⟨fromNode, toNode⟩ := consistent.ends other edge found
    exact ⟨Table.mem_keys_insert.2 (Or.inr fromNode), Table.mem_keys_insert.2 (Or.inr toNode)⟩
  · intro other stored parent found isPlaced
    rw [Table.get?_insert] at found
    split at found
    · cases found
      exact keeps parent (placed parent isPlaced)
    · exact keeps parent (consistent.parents other stored parent found isPlaced)
  · intro other chosen
    rcases consistent.selected other chosen with member | member
    · exact Or.inl (Table.mem_keys_insert.2 (Or.inr member))
    · exact Or.inr member
  · intro other stored
    rcases stored with member | member
    · rcases Table.mem_keys_insert.1 member with rfl | member
      · exact Numbering.past_of_allocate sound.bounded allocated
      · exact (sound.past other (Or.inl member)).allocate allocated
    · exact (sound.past other (Or.inr member)).allocate allocated

theorem edgeAdded {numbering : Numbering} {edge : Edge}
    (allocated : store.numbering.allocate .edge = .ok (edge.id, numbering))
    (fromNode : edge.source ∈ store.nodes.keys) (toNode : edge.target ∈ store.nodes.keys) :
    Sound { store with edges := store.edges.insert edge.id edge, numbering := numbering } := by
  have consistent := sound.consistent
  have fresh := sound.not_holds allocated
  refine ⟨⟨consistent.node_id, ?_, ?_, ?_, consistent.parents, ?_⟩,
    sound.bounded.allocate allocated, ?_⟩
  · intro other stored found
    rw [Table.get?_insert] at found
    split at found
    · cases found
      exact (by assumption : other = edge.id).symm
    · exact consistent.edge_id other stored found
  · intro other isNode isEdge
    rcases Table.mem_keys_insert.1 isEdge with rfl | isEdge
    · exact fresh (Or.inl isNode)
    · exact consistent.disjoint other isNode isEdge
  · intro other stored found
    rw [Table.get?_insert] at found
    split at found
    · cases found
      exact ⟨fromNode, toNode⟩
    · exact consistent.ends other stored found
  · intro other chosen
    rcases consistent.selected other chosen with member | member
    · exact Or.inl member
    · exact Or.inr (Table.mem_keys_insert.2 (Or.inr member))
  · intro other stored
    rcases stored with member | member
    · exact (sound.past other (Or.inl member)).allocate allocated
    · rcases Table.mem_keys_insert.1 member with rfl | member
      · exact Numbering.past_of_allocate sound.bounded allocated
      · exact (sound.past other (Or.inr member)).allocate allocated

theorem nodeReplaced {id : ElementId} {old new : Node} (found : store.nodes.get? id = some old)
    (own : new.id = old.id) (typed : new.type = old.type) (placed : new.parent = old.parent) :
    Sound { store with nodes := store.nodes.insert id new } := by
  have consistent := sound.consistent
  have stored := mem_keys_of_get? found
  have sameKeys : ∀ other, other ∈ (store.nodes.insert id new).keys ↔ other ∈ store.nodes.keys :=
    fun other => Table.mem_keys_insert_of_mem stored
  have keeps : ∀ other, store.HoldsLocation other →
      HoldsLocation { store with nodes := store.nodes.insert id new } other := by
    rintro other ⟨location, here, isLocation⟩
    by_cases same : other = id
    · subst same
      rw [found] at here
      cases here
      exact ⟨new, by rw [Table.get?_insert, if_pos rfl], typed.trans isLocation⟩
    · exact ⟨location, by rw [Table.get?_insert, if_neg same, here], isLocation⟩
  refine ⟨⟨?_, consistent.edge_id, ?_, ?_, ?_, ?_⟩, sound.bounded, ?_⟩
  · intro other node here
    rw [Table.get?_insert] at here
    split at here
    · rename_i same
      cases here
      rw [own, same]
      exact consistent.node_id id old found
    · exact consistent.node_id other node here
  · exact fun other member => consistent.disjoint other ((sameKeys other).1 member)
  · intro other edge here
    obtain ⟨fromNode, toNode⟩ := consistent.ends other edge here
    exact ⟨(sameKeys _).2 fromNode, (sameKeys _).2 toNode⟩
  · intro other node parent here isPlaced
    rw [Table.get?_insert] at here
    split at here
    · cases here
      exact keeps parent (consistent.parents id old parent found (placed ▸ isPlaced))
    · exact keeps parent (consistent.parents other node parent here isPlaced)
  · intro other chosen
    exact (consistent.selected other chosen).imp_left (sameKeys other).2
  · intro other held
    exact sound.past other (held.imp_left (sameKeys other).1)

theorem edgeReplaced {id : ElementId} {old new : Edge} (found : store.edges.get? id = some old)
    (own : new.id = old.id) (fromSame : new.source = old.source)
    (toSame : new.target = old.target) :
    Sound { store with edges := store.edges.insert id new } := by
  have consistent := sound.consistent
  have stored : id ∈ store.edges.keys := Table.mem_keys_iff.2 ⟨old, found⟩
  have sameKeys : ∀ other, other ∈ (store.edges.insert id new).keys ↔ other ∈ store.edges.keys :=
    fun other => Table.mem_keys_insert_of_mem stored
  refine ⟨⟨consistent.node_id, ?_, ?_, ?_, consistent.parents, ?_⟩, sound.bounded, ?_⟩
  · intro other edge here
    rw [Table.get?_insert] at here
    split at here
    · rename_i same
      cases here
      rw [own, same]
      exact consistent.edge_id id old found
    · exact consistent.edge_id other edge here
  · exact fun other isNode isEdge => consistent.disjoint other isNode ((sameKeys other).1 isEdge)
  · intro other edge here
    rw [Table.get?_insert] at here
    split at here
    · cases here
      rw [fromSame, toSame]
      exact consistent.ends id old found
    · exact consistent.ends other edge here
  · intro other chosen
    exact (consistent.selected other chosen).imp_right (sameKeys other).2
  · intro other held
    exact sound.past other (held.imp_right (sameKeys other).1)

/-- What a deletion takes is closed: an edge goes with either of its ends, and a sublocation with
its parent. -/
theorem removal_closed {id : ElementId} {gone : Removal} (found : store.removal id = .ok gone) :
    (∀ other edge, store.edges.get? other = some edge → other ∉ gone.edges →
      edge.source ∉ gone.nodes ∧ edge.target ∉ gone.nodes) ∧
    ∀ other node parent, store.nodes.get? other = some node → node.parent = some parent →
      other ∉ gone.nodes → parent ∉ gone.nodes := by
  have consistent := sound.consistent
  rcases removal_cases found with ⟨-, none⟩ | ⟨-, nodes, edges⟩
  · rw [none]
    exact ⟨fun _ _ _ _ => by simp, fun _ _ _ _ _ _ => by simp⟩
  refine ⟨?_, ?_⟩
  · intro other edge stored stays
    have spared : ¬ (edge.source ∈ store.doomedNodes id ∨ edge.target ∈ store.doomedNodes id) :=
      fun doomed => stays ((edges other).2
        ⟨Table.mem_keys_iff.2 ⟨edge, stored⟩, (consistent.mem_doomedEdges_iff stored).2 doomed⟩)
    obtain ⟨fromSpared, toSpared⟩ := not_or.1 spared
    exact ⟨fun taken => fromSpared ((nodes _).1 taken).2,
      fun taken => toSpared ((nodes _).1 taken).2⟩
  · intro other node parent stored placed stays taken
    obtain ⟨location, here, typed⟩ := consistent.parents other node parent stored placed
    rcases (consistent.mem_doomedNodes_iff here).1 ((nodes parent).1 taken).2 with rfl | inside
    · -- The node is a sublocation of the deleted one, so it goes itself.
      exact stays ((nodes other).2
        ⟨mem_keys_of_get? stored, (consistent.mem_doomedNodes_iff stored).2 (Or.inr placed)⟩)
    · -- The parent would be a location and a sublocation at once.
      have isSublocation := Node.type_of_parent inside
      rw [typed] at isSublocation
      cases isSublocation

theorem removed {id : ElementId} {gone : Removal} (found : store.removal id = .ok gone) :
    (store.without gone).Sound := by
  have consistent := sound.consistent
  obtain ⟨edgesGo, sublocationsGo⟩ := sound.removal_closed found
  have kept : ∀ other, (store.without gone).Holds other → store.Holds other := fun other held =>
    held.imp (fun member => (mem_keys_nodes_without.1 member).1)
      fun member => (mem_keys_edges_without.1 member).1
  refine ⟨⟨?_, ?_, ?_, ?_, ?_, ?_⟩, sound.bounded,
    fun other held => sound.past other (kept other held)⟩
  · exact fun other node here => consistent.node_id other node (get?_nodes_without.1 here).1
  · exact fun other edge here => consistent.edge_id other edge (get?_edges_without.1 here).1
  · intro other isNode isEdge
    exact consistent.disjoint other (mem_keys_nodes_without.1 isNode).1
      (mem_keys_edges_without.1 isEdge).1
  · intro other edge here
    obtain ⟨stored, stays⟩ := get?_edges_without.1 here
    obtain ⟨fromNode, toNode⟩ := consistent.ends other edge stored
    obtain ⟨fromStays, toStays⟩ := edgesGo other edge stored stays
    exact ⟨mem_keys_nodes_without.2 ⟨fromNode, fromStays⟩,
      mem_keys_nodes_without.2 ⟨toNode, toStays⟩⟩
  · intro other node parent here placed
    obtain ⟨stored, stays⟩ := get?_nodes_without.1 here
    obtain ⟨location, there, typed⟩ := consistent.parents other node parent stored placed
    exact ⟨location, get?_nodes_without.2
      ⟨there, sublocationsGo other node parent stored placed stays⟩, typed⟩
  · intro other chosen
    have both : store.selection = some other ∧ other ∉ gone.nodes ∧ other ∉ gone.edges := by
      simpa [without, Option.filter_eq_some_iff] using chosen
    obtain ⟨before, notNode, notEdge⟩ := both
    rcases consistent.selected other before with member | member
    · exact Or.inl (mem_keys_nodes_without.2 ⟨member, notNode⟩)
    · exact Or.inr (mem_keys_edges_without.2 ⟨member, notEdge⟩)

theorem selected {id : ElementId} (found : (store.element? id).isSome = true) :
    Sound { store with selection := some id } := by
  have consistent := sound.consistent
  refine ⟨{ consistent with selected := ?_ }, sound.bounded, sound.past⟩
  intro other chosen
  cases chosen
  exact holds_iff_isSome_element?.1 found

theorem deselected : store.clearSelection.Sound :=
  ⟨{ sound.consistent with selected := fun _ chosen => by cases chosen }, sound.bounded, sound.past⟩

end Sound

/-- What a store is when it has loaded a valid snapshot. -/
theorem load_eq (start : Store) {world : Snapshot} (accepted : world.validate = .ok ()) :
    start.load world = .ok
      { nodes := Table.ofList (world.nodes.map fun node => (node.id, node))
        edges := Table.ofList (world.edges.map fun edge => (edge.id, edge))
        numbering := .pastAll world.ids
        settings := start.settings
        selection := none } := by
  rw [load, accepted]
  rfl

/-- A store that has loaded a valid snapshot is sound, whatever it was before. -/
theorem sound_of_valid {world : Snapshot} (valid : world.Valid) (settings : GraphSettings) :
    Sound
      { nodes := Table.ofList (world.nodes.map fun node => (node.id, node))
        edges := Table.ofList (world.edges.map fun edge => (edge.id, edge))
        numbering := .pastAll world.ids
        settings := settings
        selection := none } := by
  have nodeFound : ∀ id node,
      (Table.ofList (world.nodes.map fun node => (node.id, node))).get? id = some node ↔
        node ∈ world.nodes ∧ node.id = id :=
    fun _ _ => Table.get?_ofList_map_iff valid.nodes_nodup
  have edgeFound : ∀ id edge,
      (Table.ofList (world.edges.map fun edge => (edge.id, edge))).get? id = some edge ↔
        edge ∈ world.edges ∧ edge.id = id :=
    fun _ _ => Table.get?_ofList_map_iff valid.edges_nodup
  have isNode : ∀ id, id ∈ (Table.ofList (world.nodes.map fun node => (node.id, node))).keys ↔
      world.HasNode id := by
    intro id
    simp only [Table.mem_keys_iff, nodeFound]
    rfl
  have isEdge : ∀ id, id ∈ (Table.ofList (world.edges.map fun edge => (edge.id, edge))).keys ↔
      ∃ edge ∈ world.edges, edge.id = id := by
    intro id
    simp only [Table.mem_keys_iff, edgeFound]
  have listed : ∀ id, world.HasNode id ∨ (∃ edge ∈ world.edges, edge.id = id) → id ∈ world.ids := by
    rintro id (⟨node, member, rfl⟩ | ⟨edge, member, rfl⟩)
    · exact List.mem_append_left _ (List.mem_map_of_mem member)
    · exact List.mem_append_right _ (List.mem_map_of_mem member)
  refine ⟨⟨?_, ?_, ?_, ?_, ?_, ?_⟩, Numbering.bounded_past _ _, ?_⟩
  · exact fun id node found => ((nodeFound id node).1 found).2
  · exact fun id edge found => ((edgeFound id edge).1 found).2
  · intro id member also
    obtain ⟨node, inNodes, rfl⟩ := (isNode id).1 member
    obtain ⟨edge, inEdges, same⟩ := (isEdge node.id).1 also
    exact (List.nodup_append.1 valid.ids_nodup).2.2 _ (List.mem_map_of_mem inNodes) _
      (List.mem_map_of_mem inEdges) same.symm
  · intro id edge found
    obtain ⟨fromNode, toNode⟩ := valid.ends edge ((edgeFound id edge).1 found).1
    exact ⟨(isNode _).2 fromNode, (isNode _).2 toNode⟩
  · intro id node parent found placed
    obtain ⟨location, member, own, typed⟩ :=
      valid.parents node ((nodeFound id node).1 found).1 parent placed
    exact ⟨location, (nodeFound parent location).2 ⟨member, own⟩, typed⟩
  · intro id chosen
    cases chosen
  · intro id held
    exact Numbering.past_pastAll (listed id (held.imp (isNode id).1 (isEdge id).1))

/-- **Each change keeps a sound store sound.** -/
theorem Sound.change (sound : store.Sound) (change : Change store after) : after.Sound := by
  cases change with
  | none => exact sound
  | nodeAdded type id numbering node allocated own typed placed =>
    exact sound.nodeAdded allocated own placed
  | edgeAdded numbering edge allocated fromNode toNode =>
    exact sound.edgeAdded allocated fromNode toNode
  | nodeReplaced id old new found own typed placed =>
    exact sound.nodeReplaced found own typed placed
  | edgeReplaced id old new found own typed fromSame toSame =>
    exact sound.edgeReplaced found own fromSame toSame
  | removed id gone found => exact sound.removed found
  | cleared => exact Sound.empty store.settings
  | loaded world valid =>
    exact sound_of_valid (Snapshot.validate_eq_ok_iff.1 valid) store.settings
  | selected id found => exact sound.selected found
  | deselected => exact sound.deselected

/-- A run keeps a sound store sound. -/
theorem Sound.run (sound : store.Sound) (operations : List Operation) :
    (store.run operations).Sound :=
  run_invariant (fun _ _ sound change => sound.change change) operations sound

/-- **Every editing session ends in a consistent store.** Whatever operations are asked of a new
store, in whatever order and whether or not they are refused, its parts fit together and its
snapshot is valid. -/
theorem run_consistent (settings : GraphSettings) (operations : List Operation) :
    ((Store.empty settings).run operations).Consistent ∧
      ((Store.empty settings).run operations).snapshot.validate = .ok () := by
  have sound := (Sound.empty settings).run operations
  exact ⟨sound.consistent, Snapshot.validate_eq_ok_iff.2 sound.consistent.valid_snapshot⟩

end Store

end StoryWorld
