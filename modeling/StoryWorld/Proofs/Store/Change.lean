import StoryWorld.Proofs.Attempts
import StoryWorld.Proofs.Store.Numberings
import StoryWorld.Store.Operation

/-!
# What a step can do to a store

Whatever operation is asked of a store, and whether or not it is refused, the store afterwards
differs from the one before in one of the ways listed in `Store.Change` (`step_change`). What holds
of the first store and is kept by each of them holds of every store that a run reaches
(`run_invariant`); no further proof has to look into the operations.
-/

set_option autoImplicit false

namespace StoryWorld

/-- A patched node is of the kind it was. -/
theorem NodePatch.type_onNode (patch : NodePatch) (node : Node) :
    (patch.onNode node).type = node.type := by
  show (patch.onKind node.kind).type = node.kind.type
  cases node.kind <;> rfl

/-- A patched node stays where it was. -/
theorem NodePatch.parent_onNode (patch : NodePatch) (node : Node) :
    (patch.onNode node).parent = node.parent := by
  rw [Node.parent, Node.parent, NodePatch.onNode]
  cases node.kind <;> rfl

/-- A patched edge is of the kind it was. -/
theorem EdgePatch.type_onEdge (patch : EdgePatch) (edge : Edge) :
    (patch.onEdge edge).type = edge.type := by
  show (patch.onKind edge.kind).type = edge.kind.type
  cases edge.kind <;> rfl

namespace Store

/-- The ways in which a step can change a store. -/
inductive Change (store : Store) : Store → Prop where
  /-- Nothing changes. -/
  | none : Change store store
  /-- A node is added under a new identity; if it is a sublocation, its parent is a location. -/
  | nodeAdded (type : NodeType) (id : ElementId) (numbering : Numbering) (node : Node)
      (allocated : store.numbering.allocate (.node type) = .ok (id, numbering))
      (own : node.id = id) (typed : node.type = type)
      (placed : ∀ parent, node.parent = some parent →
        ∃ location, store.nodes.get? parent = some location ∧ location.type = .location) :
      Change store { store with nodes := store.nodes.insert id node, numbering := numbering }
  /-- An edge is added between two nodes under a new identity. -/
  | edgeAdded (numbering : Numbering) (edge : Edge)
      (allocated : store.numbering.allocate .edge = .ok (edge.id, numbering))
      (fromNode : edge.source ∈ store.nodes.keys) (toNode : edge.target ∈ store.nodes.keys) :
      Change store { store with edges := store.edges.insert edge.id edge, numbering := numbering }
  /-- A node is replaced by one of the same identity, kind and parent. -/
  | nodeReplaced (id : ElementId) (old new : Node) (found : store.nodes.get? id = some old)
      (own : new.id = old.id) (typed : new.type = old.type) (placed : new.parent = old.parent) :
      Change store { store with nodes := store.nodes.insert id new }
  /-- An edge is replaced by one of the same identity, kind and ends. -/
  | edgeReplaced (id : ElementId) (old new : Edge) (found : store.edges.get? id = some old)
      (own : new.id = old.id) (typed : new.type = old.type) (fromSame : new.source = old.source)
      (toSame : new.target = old.target) :
      Change store { store with edges := store.edges.insert id new }
  /-- An element is deleted with all that goes with it. -/
  | removed (id : ElementId) (gone : Removal) (found : store.removal id = .ok gone) :
      Change store (store.without gone)
  /-- Everything is removed. -/
  | cleared : Change store store.clear
  /-- The world is replaced by a valid snapshot. -/
  | loaded (world : Snapshot) (valid : world.validate = .ok ()) :
      Change store
        { nodes := Table.ofList (world.nodes.map fun node => (node.id, node))
          edges := Table.ofList (world.edges.map fun edge => (edge.id, edge))
          numbering := .pastAll world.ids
          settings := store.settings
          selection := Option.none }
  /-- Another element is selected. -/
  | selected (id : ElementId) (found : (store.element? id).isSome = true) :
      Change store { store with selection := some id }
  /-- Nothing is selected any more. -/
  | deselected : Change store store.clearSelection

/-! ## Each operation is one of these changes -/

variable {store after : Store} {id source target : ElementId}

theorem requireNode_eq_ok_iff {node : Node} :
    store.requireNode id = .ok node ↔ store.nodes.get? id = some node := by
  unfold requireNode
  cases store.nodes.get? id <;> simp

theorem mem_keys_of_get? {node : Node} (found : store.nodes.get? id = some node) :
    id ∈ store.nodes.keys :=
  List.mem_map_of_mem (Table.get?_eq_some_iff.1 found)

theorem newKind_eq_ok {settings : GraphSettings} {type : NodeType} {kind : NodeKind}
    (made : newKind settings type = .ok kind) :
    kind.type = type ∧ ∀ parent, kind ≠ .sublocation parent := by
  cases type <;> cases made <;> exact ⟨rfl, fun _ => by simp⟩

theorem addNode_change {type : NodeType} {position : Option Position}
    (added : store.addNode type position = .ok (after, id)) : Change store after := by
  obtain ⟨kind, made, added⟩ := bind_eq_ok_iff.1 added
  obtain ⟨⟨fresh, numbering⟩, allocated, added⟩ := bind_eq_ok_iff.1 added
  cases pure_eq_ok_iff.1 added
  obtain ⟨typed, orphan⟩ := newKind_eq_ok made
  refine .nodeAdded type id numbering _ allocated rfl typed ?_
  intro parent placed
  cases kind with
  | sublocation other => exact absurd rfl (orphan other)
  | _ => cases placed

theorem addSublocation_change {parent : ElementId} {name : String}
    (added : store.addSublocation parent name = .ok (after, id)) : Change store after := by
  obtain ⟨location, found, added⟩ := bind_eq_ok_iff.1 added
  by_cases typed : location.type = .location
  · rw [if_neg (not_not_intro typed)] at added
    obtain ⟨⟨fresh, numbering⟩, allocated, added⟩ := bind_eq_ok_iff.1 added
    cases pure_eq_ok_iff.1 added
    refine .nodeAdded .sublocation id numbering _ allocated rfl rfl ?_
    intro other placed
    cases placed
    exact ⟨location, requireNode_eq_ok_iff.1 found, typed⟩
  · rw [if_pos typed] at added
    cases added

/-- An edge that is added is bound to a new identity. -/
theorem addEdge_eq_ok {kind : EdgeKind}
    (added : store.addEdge source target kind = .ok (after, id)) :
    ∃ numbering, store.numbering.allocate .edge = .ok (id, numbering) ∧
      source ∈ store.nodes.keys ∧ target ∈ store.nodes.keys ∧
      after = { store with
        edges := store.edges.insert id ⟨id, source, target, kind⟩
        numbering := numbering } := by
  obtain ⟨sourceNode, sourceFound, added⟩ := bind_eq_ok_iff.1 added
  obtain ⟨targetNode, targetFound, added⟩ := bind_eq_ok_iff.1 added
  obtain ⟨⟨fresh, numbering⟩, allocated, added⟩ := bind_eq_ok_iff.1 added
  cases pure_eq_ok_iff.1 added
  exact ⟨numbering, allocated, mem_keys_of_get? (requireNode_eq_ok_iff.1 sourceFound),
    mem_keys_of_get? (requireNode_eq_ok_iff.1 targetFound), rfl⟩

theorem addEdge_change {kind : EdgeKind}
    (added : store.addEdge source target kind = .ok (after, id)) : Change store after := by
  obtain ⟨numbering, allocated, fromNode, toNode, rfl⟩ := addEdge_eq_ok added
  exact .edgeAdded numbering ⟨id, source, target, kind⟩ allocated fromNode toNode

theorem connect_eq_ok {kind : EdgeKind} {result : Store × ElementId}
    (joined : store.connect source target kind = .ok result) :
    store.addEdge source target kind = .ok result := by
  obtain ⟨sourceNode, -, joined⟩ := bind_eq_ok_iff.1 joined
  obtain ⟨targetNode, -, joined⟩ := bind_eq_ok_iff.1 joined
  obtain ⟨-, -, joined⟩ := bind_eq_ok_iff.1 joined
  exact joined

/-- Nodes that are connected may be joined by an edge of the kind. -/
theorem connect_joins {kind : EdgeKind} {result : Store × ElementId}
    (joined : store.connect source target kind = .ok result) :
    ∃ sourceNode targetNode, store.nodes.get? source = some sourceNode ∧
      store.nodes.get? target = some targetNode ∧
      validateConnection sourceNode targetNode kind.type = .ok () := by
  obtain ⟨sourceNode, sourceFound, joined⟩ := bind_eq_ok_iff.1 joined
  obtain ⟨targetNode, targetFound, joined⟩ := bind_eq_ok_iff.1 joined
  obtain ⟨⟨⟩, allowed, -⟩ := bind_eq_ok_iff.1 joined
  exact ⟨sourceNode, targetNode, requireNode_eq_ok_iff.1 sourceFound,
    requireNode_eq_ok_iff.1 targetFound, allowed⟩

theorem requestEdge_eq_ok {result : Store × ElementId}
    (requested : store.requestEdge source target = .ok result) :
    ∃ type, store.connect source target (newEdgeKind store.settings type) = .ok result := by
  obtain ⟨sourceNode, -, requested⟩ := bind_eq_ok_iff.1 requested
  obtain ⟨targetNode, -, requested⟩ := bind_eq_ok_iff.1 requested
  dsimp only at requested
  split at requested
  · cases requested
  · rename_i type _
    exact ⟨type, requested⟩

/-- A node that is patched is replaced by the one with the new values. -/
theorem patchNode_eq_ok {patch : NodePatch} (patched : store.patchNode id patch = .ok after) :
    ∃ old, store.nodes.get? id = some old ∧
      after = { store with nodes := store.nodes.insert id (patch.onNode old) } := by
  unfold patchNode at patched
  split at patched
  · cases patched
  · rename_i old found
    obtain ⟨new, applied, patched⟩ := bind_eq_ok_iff.1 patched
    cases pure_eq_ok_iff.1 patched
    unfold NodePatch.apply at applied
    split at applied <;> cases applied
    exact ⟨old, found, rfl⟩

theorem patchNode_change {patch : NodePatch} (patched : store.patchNode id patch = .ok after) :
    Change store after := by
  obtain ⟨old, found, rfl⟩ := patchNode_eq_ok patched
  exact .nodeReplaced id old (patch.onNode old) found rfl (patch.type_onNode old)
    (patch.parent_onNode old)

/-- An edge that is patched is replaced by the one with the new values. -/
theorem patchEdge_eq_ok {patch : EdgePatch} (patched : store.patchEdge id patch = .ok after) :
    ∃ old, store.edges.get? id = some old ∧
      after = { store with edges := store.edges.insert id (patch.onEdge old) } := by
  unfold patchEdge at patched
  split at patched
  · cases patched
  · rename_i old found
    obtain ⟨new, applied, patched⟩ := bind_eq_ok_iff.1 patched
    cases pure_eq_ok_iff.1 patched
    unfold EdgePatch.apply at applied
    split at applied <;> cases applied
    exact ⟨old, found, rfl⟩

theorem patchEdge_change {patch : EdgePatch} (patched : store.patchEdge id patch = .ok after) :
    Change store after := by
  obtain ⟨old, found, rfl⟩ := patchEdge_eq_ok patched
  exact .edgeReplaced id old (patch.onEdge old) found rfl (patch.type_onEdge old) rfl rfl

theorem rename_eq_ok {name : String} (given : store.rename id name = .ok after) :
    ∃ old, store.nodes.get? id = some old ∧
      after = { store with nodes := store.nodes.insert id (renamed old name) } := by
  obtain ⟨old, found, given⟩ := bind_eq_ok_iff.1 given
  cases pure_eq_ok_iff.1 given
  exact ⟨old, requireNode_eq_ok_iff.1 found, rfl⟩

theorem rename_change {name : String} (given : store.rename id name = .ok after) :
    Change store after := by
  obtain ⟨old, found, rfl⟩ := rename_eq_ok given
  exact .nodeReplaced id old _ found rfl rfl rfl

theorem setBody_eq_ok {field : ContentField} {body : String}
    (stored : store.setBody id field body = .ok after) :
    ∃ old, store.nodes.get? id = some old ∧
      after = { store with nodes := store.nodes.insert id (withBody old field body) } := by
  obtain ⟨old, found, stored⟩ := bind_eq_ok_iff.1 stored
  split at stored
  · cases pure_eq_ok_iff.1 stored
    exact ⟨old, requireNode_eq_ok_iff.1 found, rfl⟩
  · cases stored

theorem setBody_change {field : ContentField} {body : String}
    (stored : store.setBody id field body = .ok after) : Change store after := by
  obtain ⟨old, found, rfl⟩ := setBody_eq_ok stored
  refine .nodeReplaced id old _ found ?_ ?_ ?_ <;> cases field <;> rfl

theorem delete_change {gone : Removal} (deleted : store.delete id = .ok (after, gone)) :
    Change store after := by
  obtain ⟨removed, found, deleted⟩ := bind_eq_ok_iff.1 deleted
  cases pure_eq_ok_iff.1 deleted
  exact .removed id gone found

theorem load_change {world : Snapshot} (loaded : store.load world = .ok after) :
    Change store after := by
  obtain ⟨_, valid, loaded⟩ := bind_eq_ok_iff.1 loaded
  cases pure_eq_ok_iff.1 loaded
  exact .loaded world valid

theorem select_change (selected : store.select id = .ok after) : Change store after := by
  unfold select at selected
  split at selected
  · rename_i found
    cases selected
    exact .selected id found
  · cases selected

/-- What holds of a store is kept if every change that succeeds keeps it. -/
theorem settle_invariant {α : Type} {attempt : Except Refusal α} {accept : α → Store × Reply}
    {kept : Store → Prop} (start : kept store)
    (accepted : ∀ result, attempt = .ok result → kept (accept result).1) :
    kept (store.settle attempt accept).1 := by
  cases attempt with
  | error why => exact start
  | ok result => exact accepted result rfl

/-- A change that may be refused is a change if it is one when it is not refused. -/
theorem settle_change {α : Type} {outcome : Except Refusal α} {accept : α → Store × Reply}
    (accepted : ∀ result, outcome = .ok result → Change store (accept result).1) :
    Change store (store.settle outcome accept).1 := by
  unfold settle
  split
  · exact accepted _ rfl
  · exact .none

/-- **What a step can do.** Every operation, refused or not, is one of the changes. -/
theorem step_change (store : Store) (operation : Operation) :
    Change store (store.step operation).1 := by
  cases operation with
  | addNode type position => exact settle_change fun _ made => addNode_change made
  | addSublocation parent name => exact settle_change fun _ made => addSublocation_change made
  | addEdge source target kind => exact settle_change fun _ made => addEdge_change made
  | connect source target kind =>
    exact settle_change fun _ made => addEdge_change (connect_eq_ok made)
  | requestEdge source target =>
    refine settle_change fun _ made => ?_
    obtain ⟨_, joined⟩ := requestEdge_eq_ok made
    exact addEdge_change (connect_eq_ok joined)
  | patchNode id patch => exact settle_change fun _ made => patchNode_change made
  | patchEdge id patch => exact settle_change fun _ made => patchEdge_change made
  | rename id name => exact settle_change fun _ made => rename_change made
  | setBody id field body => exact settle_change fun _ made => setBody_change made
  | delete id => exact settle_change fun _ made => delete_change made
  | clear => exact .cleared
  | load world => exact settle_change fun _ made => load_change made
  | select id => exact settle_change fun _ made => select_change made
  | clearSelection => exact .deselected

/-- What each change keeps, a run keeps. -/
theorem run_invariant {kept : Store → Prop}
    (step : ∀ store after, kept store → Change store after → kept after)
    (operations : List Operation) {store : Store} (start : kept store) :
    kept (store.run operations) := by
  induction operations generalizing store with
  | nil => exact start
  | cons operation rest ih => exact ih (step _ _ start (store.step_change operation))

end Store

end StoryWorld
