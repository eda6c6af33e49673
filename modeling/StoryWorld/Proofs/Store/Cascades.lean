import StoryWorld.Proofs.Store.Consistency

/-!
# What falls with an element

A sublocation cannot be without the location it lies in, nor an edge without its ends. So an element
takes others with it when it is deleted: `Store.Falls` is the least set that contains it, with every
sublocation of something in the set and every edge that has an end there.

A deletion looks no further than the sublocations of a node and the edges at all these. That is
enough in a store that is consistent, since nothing lies in a sublocation and nothing hangs on an
edge (`Sound.mem_removal_iff`). So what is deleted is what falls with the element, and everything
else stays as and where it was (`Sound.delete_cascades`). `delete_cascade` says so of every store
that an editing session reaches.
-/

set_option autoImplicit false

namespace StoryWorld

namespace Store

/-- What falls with an element: the element itself, the sublocations that lie in something that
falls, and the edges with an end that falls. -/
inductive Falls (store : Store) (id : ElementId) : ElementId → Prop where
  | itself : Falls store id id
  | inside {other parent : ElementId} {node : Node} (found : store.nodes.get? other = some node)
      (placed : node.parent = some parent) (falls : Falls store id parent) : Falls store id other
  | attached {other tip : ElementId} {edge : Edge} (found : store.edges.get? other = some edge)
      (ends : edge.source = tip ∨ edge.target = tip) (falls : Falls store id tip) :
      Falls store id other

/-- The element has been deleted with all that falls with it, and the removal tells of it. -/
structure Cascade (store : Store) (id : ElementId) (after : Store) (gone : Removal) : Prop where
  /-- The removal lists what falls. -/
  takes : ∀ other, other ∈ gone.nodes ∨ other ∈ gone.edges ↔ store.Falls id other
  /-- Nodes and edges are listed apart, in the order of the store and each once. -/
  nodes_listed : gone.nodes.Sublist store.nodes.keys ∧ gone.nodes.Nodup
  edges_listed : gone.edges.Sublist store.edges.keys ∧ gone.edges.Nodup
  /-- What does not fall stays as it was, in the order in which it was. -/
  nodes_left : after.nodes.entries.Sublist store.nodes.entries ∧
    ∀ entry ∈ store.nodes.entries, entry ∈ after.nodes.entries ↔ ¬ store.Falls id entry.1
  edges_left : after.edges.entries.Sublist store.edges.entries ∧
    ∀ entry ∈ store.edges.entries, entry ∈ after.edges.entries ↔ ¬ store.Falls id entry.1
  /-- What is selected stays so unless it falls. -/
  deselected : ∀ chosen, store.selection = some chosen → store.Falls id chosen →
    after.selection = none
  selected : (∀ chosen, store.selection = some chosen → ¬ store.Falls id chosen) →
    after.selection = store.selection
  numbering : after.numbering = store.numbering
  settings : after.settings = store.settings

variable {store : Store} {id other : ElementId} {gone : Removal}

/-! ## What a deletion finds -/

theorem removal_of_edge (isEdge : id ∈ store.edges.keys) : store.removal id = .ok ⟨[], [id]⟩ := by
  rw [removal, if_pos (Table.contains_iff.2 isEdge)]

theorem removal_of_node (notEdge : id ∉ store.edges.keys) (isNode : id ∈ store.nodes.keys) :
    store.removal id = .ok
      ⟨store.nodes.keys.filter fun key => decide (key ∈ store.doomedNodes id),
        store.edges.keys.filter fun key =>
          decide (key ∈ store.doomedEdges (store.doomedNodes id))⟩ := by
  rw [removal, if_neg (mt Table.contains_iff.1 notEdge), if_pos (Table.contains_iff.2 isNode)]

theorem removal_refused (absent : ¬ store.Holds id) :
    store.removal id = .error (.unknownElement id) := by
  obtain ⟨notNode, notEdge⟩ := not_or.1 absent
  rw [removal, if_neg (mt Table.contains_iff.1 notEdge), if_neg (mt Table.contains_iff.1 notNode)]

/-- A removal lists stored elements in the order of the store. -/
theorem removal_sublist (found : store.removal id = .ok gone) :
    gone.nodes.Sublist store.nodes.keys ∧ gone.edges.Sublist store.edges.keys := by
  by_cases isEdge : id ∈ store.edges.keys
  · rw [removal_of_edge isEdge] at found
    cases found
    exact ⟨List.nil_sublist _, List.singleton_sublist.2 isEdge⟩
  · by_cases isNode : id ∈ store.nodes.keys
    · rw [removal_of_node isEdge isNode] at found
      cases found
      exact ⟨List.filter_sublist, List.filter_sublist⟩
    · rw [removal_refused (not_or.2 ⟨isNode, isEdge⟩)] at found
      cases found

theorem delete_eq (found : store.removal id = .ok gone) :
    store.delete id = .ok (store.without gone, gone) := by
  rw [delete, found]
  rfl

/-- What is stored can be deleted. -/
theorem exists_removal (held : store.Holds id) : ∃ gone, store.removal id = .ok gone := by
  by_cases isEdge : id ∈ store.edges.keys
  · exact ⟨_, removal_of_edge isEdge⟩
  · exact ⟨_, removal_of_node isEdge (held.resolve_right isEdge)⟩

/-! ## What falls is what is deleted -/

/-- What falls with a stored element is stored, and with no other element does anything fall that
is. -/
theorem Consistent.holds_iff_of_falls (consistent : store.Consistent)
    (falls : store.Falls id other) : store.Holds other ↔ store.Holds id := by
  induction falls with
  | itself => exact Iff.rfl
  | inside found placed falls ih =>
    obtain ⟨location, here, -⟩ := consistent.parents _ _ _ found placed
    exact iff_of_true (Or.inl (mem_keys_of_get? found))
      (ih.1 (Or.inl (mem_keys_of_get? here)))
  | attached found ends falls ih =>
    obtain ⟨fromNode, toNode⟩ := consistent.ends _ _ found
    refine iff_of_true (Or.inr (Table.mem_keys_iff.2 ⟨_, found⟩)) (ih.1 (Or.inl ?_))
    rcases ends with rfl | rfl
    · exact fromNode
    · exact toNode

/-- What is deleted falls. -/
theorem Consistent.falls_of_mem_removal (consistent : store.Consistent)
    (found : store.removal id = .ok gone) (taken : other ∈ gone.nodes ∨ other ∈ gone.edges) :
    store.Falls id other := by
  by_cases isEdge : id ∈ store.edges.keys
  · rw [removal_of_edge isEdge] at found
    cases found
    rcases taken with inNodes | inEdges
    · cases inNodes
    · rw [List.mem_singleton.1 inEdges]
      exact .itself
  · have doomed : ∀ tip ∈ store.doomedNodes id, store.Falls id tip := by
      intro tip isDoomed
      rcases List.mem_cons.1 isDoomed with rfl | inside
      · exact .itself
      · obtain ⟨room, member, rfl⟩ := List.mem_map.1 inside
        obtain ⟨stored, placed⟩ := List.mem_filter.1 member
        obtain ⟨key, here⟩ := Table.mem_values_iff.1 stored
        rw [consistent.node_id key room here]
        exact .inside here (of_decide_eq_true placed) .itself
    rcases removal_cases found with ⟨held, -⟩ | ⟨-, nodes, edges⟩
    · exact absurd held isEdge
    · rcases taken with inNodes | inEdges
      · exact doomed other ((nodes other).1 inNodes).2
      · obtain ⟨stored, inside⟩ := (edges other).1 inEdges
        obtain ⟨edge, here⟩ := Table.mem_keys_iff.1 stored
        rcases (consistent.mem_doomedEdges_iff here).1 inside with fromDoomed | toDoomed
        · exact .attached here (Or.inl rfl) (doomed _ fromDoomed)
        · exact .attached here (Or.inr rfl) (doomed _ toDoomed)

namespace Sound

variable (sound : store.Sound)

include sound

/-- **What is deleted is what falls.** The induction follows the cascade; that one level of it is
enough is that a removal is closed. -/
theorem mem_removal_iff (found : store.removal id = .ok gone) :
    other ∈ gone.nodes ∨ other ∈ gone.edges ↔ store.Falls id other := by
  have consistent := sound.consistent
  obtain ⟨edgesGo, sublocationsGo⟩ := sound.removal_closed found
  refine ⟨consistent.falls_of_mem_removal found, fun falls => ?_⟩
  -- No edge is a parent or an end, so what has been taken on the way is a node.
  have taken_node : ∀ tip ∈ store.nodes.keys, tip ∈ gone.nodes ∨ tip ∈ gone.edges →
      tip ∈ gone.nodes := by
    intro tip isNode taken
    refine taken.resolve_right fun inEdges => ?_
    exact consistent.disjoint tip isNode ((removal_sublist found).2.subset inEdges)
  induction falls with
  | itself =>
    by_cases isEdge : id ∈ store.edges.keys
    · rw [removal_of_edge isEdge] at found
      cases found
      exact Or.inr (List.mem_singleton_self id)
    · rcases removal_cases found with ⟨held, -⟩ | ⟨isNode, nodes, -⟩
      · exact absurd held isEdge
      · exact Or.inl ((nodes id).2 ⟨isNode, List.mem_cons_self ..⟩)
  | inside here placed falls ih =>
    obtain ⟨location, there, -⟩ := consistent.parents _ _ _ here placed
    by_contra stays
    exact sublocationsGo _ _ _ here placed (fun taken => stays (Or.inl taken))
      (taken_node _ (mem_keys_of_get? there) ih)
  | attached here ends falls ih =>
    obtain ⟨fromNode, toNode⟩ := consistent.ends _ _ here
    by_contra stays
    obtain ⟨fromStays, toStays⟩ := edgesGo _ _ here fun taken => stays (Or.inr taken)
    rcases ends with rfl | rfl
    · exact fromStays (taken_node _ fromNode ih)
    · exact toStays (taken_node _ toNode ih)

theorem mem_removal_nodes_iff (found : store.removal id = .ok gone) :
    other ∈ gone.nodes ↔ other ∈ store.nodes.keys ∧ store.Falls id other := by
  constructor
  · intro taken
    exact ⟨(removal_sublist found).1.subset taken, (sound.mem_removal_iff found).1 (Or.inl taken)⟩
  · rintro ⟨isNode, falls⟩
    refine ((sound.mem_removal_iff found).2 falls).resolve_right fun taken => ?_
    exact sound.consistent.disjoint other isNode ((removal_sublist found).2.subset taken)

theorem mem_removal_edges_iff (found : store.removal id = .ok gone) :
    other ∈ gone.edges ↔ other ∈ store.edges.keys ∧ store.Falls id other := by
  constructor
  · intro taken
    exact ⟨(removal_sublist found).2.subset taken, (sound.mem_removal_iff found).1 (Or.inr taken)⟩
  · rintro ⟨isEdge, falls⟩
    refine ((sound.mem_removal_iff found).2 falls).resolve_left fun taken => ?_
    exact sound.consistent.disjoint other ((removal_sublist found).1.subset taken) isEdge

/-- A deletion takes what falls with the element and leaves everything else as it was. -/
theorem delete_cascades (found : store.removal id = .ok gone) :
    store.Cascade id (store.without gone) gone where
  takes := fun _ => sound.mem_removal_iff found
  nodes_listed :=
    have listed := (removal_sublist found).1
    ⟨listed, listed.nodup store.nodes.keys_nodup⟩
  edges_listed :=
    have listed := (removal_sublist found).2
    ⟨listed, listed.nodup store.edges.keys_nodup⟩
  nodes_left := by
    refine ⟨List.filter_sublist, fun entry member => ?_⟩
    have isNode : entry.1 ∈ store.nodes.keys := List.mem_map_of_mem member
    simp [without, Table.filter, member, sound.mem_removal_nodes_iff found, isNode]
  edges_left := by
    refine ⟨List.filter_sublist, fun entry member => ?_⟩
    have isEdge : entry.1 ∈ store.edges.keys := List.mem_map_of_mem member
    simp [without, Table.filter, member, sound.mem_removal_edges_iff found, isEdge]
  deselected := by
    intro chosen here falls
    rw [without, here, Option.filter_some, if_neg]
    intro spared
    obtain ⟨notNode, notEdge⟩ := of_decide_eq_true spared
    exact ((sound.mem_removal_iff found).2 falls).elim notNode notEdge
  selected := by
    intro stays
    cases here : store.selection with
    | none => rw [without, here]; rfl
    | some chosen =>
      have spared := stays chosen here
      rw [← sound.mem_removal_iff found, not_or] at spared
      rw [without, here, Option.filter_some, if_pos (decide_eq_true spared)]
  numbering := rfl
  settings := rfl

end Sound

/-- **A deletion takes exactly what falls.** In every store that an editing session reaches, every
stored element can be deleted. What the removal lists, in the order of the store and without
repeats, is the least set that contains the element, each sublocation of a location in the set, and
each edge that has an end in it. All other elements stay as they were and in their order; what is
selected stays selected unless it has been removed, and numbering and settings do not change. -/
theorem delete_cascade (settings : GraphSettings) (operations : List Operation) {id : ElementId}
    (held : ((Store.empty settings).run operations).Holds id) :
    let store := (Store.empty settings).run operations
    ∃ after gone, store.delete id = .ok (after, gone) ∧ store.Cascade id after gone := by
  have sound := (Sound.empty settings).run operations
  obtain ⟨gone, found⟩ := exists_removal held
  exact ⟨_, gone, delete_eq found, sound.delete_cascades found⟩

/-- A house with a cellar, and a lodger. One edge leads from the cellar to the lodger and is
selected, one from the lodger to the lodger, and one from the lodger to the house. -/
def lodgings : List Operation :=
  let house : ElementId := .numbered (.node .location) 1
  let cellar : ElementId := .numbered (.node .sublocation) 2
  let lodger : ElementId := .numbered (.node .character) 3
  [.addNode .location none, .addSublocation house "Cellar", .addNode .character none,
    .addEdge cellar lodger .adjacent, .addEdge lodger lodger (.knows "self" "" ""),
    .connect lodger house (.spawn 0.5 .empty), .select (.numbered .edge 1)]

/-- With the house there go the cellar and the edges at either of them. -/
theorem lodgings_cascade :
    let store := (Store.empty {}).run lodgings
    let house : ElementId := .numbered (.node .location) 1
    store.Holds house ∧ store.selection = some (.numbered .edge 1) ∧
      ∃ after gone, store.delete house = .ok (after, gone) ∧ store.Cascade house after gone ∧
        gone = ⟨[house, .numbered (.node .sublocation) 2], [.numbered .edge 1, .numbered .edge 3]⟩ ∧
        after.nodes.keys = [.numbered (.node .character) 3] ∧
        after.edges.keys = [.numbered .edge 2] ∧ after.selection = none := by
  intro store house
  have held : store.Holds house := Or.inl (by decide +kernel)
  obtain ⟨after, gone, deleted, cascade⟩ := delete_cascade {} lodgings held
  have outcome : (store.delete house).map (fun made =>
      (made.2, made.1.nodes.keys, made.1.edges.keys, made.1.selection)) =
        .ok (⟨[house, .numbered (.node .sublocation) 2], [.numbered .edge 1, .numbered .edge 3]⟩,
          [.numbered (.node .character) 3], [.numbered .edge 2], none) := by decide +kernel
  rw [deleted] at outcome
  obtain ⟨removed, nodes, edges, deselected⟩ : _ ∧ _ ∧ _ ∧ _ := by
    simpa only [Prod.mk.injEq] using Except.ok.inj outcome
  exact ⟨held, by decide +kernel, after, gone, deleted, cascade, removed, nodes, edges, deselected⟩

end Store

end StoryWorld
