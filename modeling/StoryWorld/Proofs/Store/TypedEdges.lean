import StoryWorld.Proofs.Lore.Exported
import StoryWorld.Proofs.Store.OverrideSessions

/-!
# Typed edges in editing sessions

Which kind of edge may join two nodes is looked up once, when the nodes are connected. An edge keeps
its kind and its ends from then on, a node its kind, and a deletion takes the edges of a node with
it. New nodes have new identities, so no edge ever leads to another node than the one it was made
for.

So edges stay typed (`Store.EdgesTyped`) as long as they come in by connecting nodes or with worlds
whose edges are typed (`Operation.BringsTyped`): `EdgesTyped.step` says this of one step, and
`run_edgesTyped` of whole editing sessions. Adding an edge without a look at the kinds of its ends
is the only operation of a store that is left out.
-/

set_option autoImplicit false

namespace StoryWorld

/-- The edges that the operation brings in are made by connecting nodes, or come with a world whose
edges are typed. -/
def Operation.BringsTyped : Operation → Prop
  | .addEdge .. => False
  | .load world => world.validate = .ok () → world.Typed
  | _ => True

instance (world : Snapshot) : Decidable world.Typed :=
  inferInstanceAs (Decidable (∀ edge ∈ world.edges, _))

instance : ∀ operation : Operation, Decidable operation.BringsTyped
  | .addEdge .. => .isFalse False.elim
  | .load world => inferInstanceAs (Decidable (world.validate = .ok () → world.Typed))
  | .addNode .. | .addSublocation .. | .connect .. | .requestEdge .. | .patchNode .. | .patchEdge ..
  | .rename .. | .setBody .. | .delete _ | .clear | .select _ | .clearSelection => .isTrue trivial

namespace Store

variable {store after : Store}

/-! ## Typed edges -/

/-- The edge joins two different stored nodes, and is of the kind that joins their kinds. -/
def Joins (store : Store) (edge : Edge) : Prop :=
  edge.source ≠ edge.target ∧ ∃ source target,
    store.nodes.get? edge.source = some source ∧ store.nodes.get? edge.target = some target ∧
      connectionType source.type target.type = some edge.type

/-- Every edge joins two different stored nodes, and is of the kind that joins their kinds. -/
def EdgesTyped (store : Store) : Prop := ∀ edge ∈ store.edges.values, store.Joins edge

/-- An edge that keeps its kind and its ends goes on joining nodes that keep their kinds. -/
theorem Joins.of_keepsKind {edge copy : Edge} (joins : store.Joins edge)
    (source : KeepsKind store after edge.source) (target : KeepsKind store after edge.target)
    (fromSame : copy.source = edge.source) (toSame : copy.target = edge.target)
    (own : copy.type = edge.type) : after.Joins copy := by
  obtain ⟨differ, first, second, firstFound, secondFound, joined⟩ := joins
  obtain ⟨firstCopy, firstThere, firstTyped⟩ := source first firstFound
  obtain ⟨secondCopy, secondThere, secondTyped⟩ := target second secondFound
  unfold Joins
  rw [fromSame, toSame, own]
  refine ⟨differ, firstCopy, secondCopy, firstThere, secondThere, ?_⟩
  rw [firstTyped, secondTyped, joined]

/-- The snapshot of a consistent store with typed edges has typed edges. -/
theorem EdgesTyped.typed_snapshot (typed : store.EdgesTyped) (consistent : store.Consistent) :
    store.snapshot.Typed := by
  intro edge member
  obtain ⟨differ, source, target, sourceFound, targetFound, joined⟩ := typed edge member
  exact ⟨source, Table.mem_values_iff.2 ⟨_, sourceFound⟩,
    target, Table.mem_values_iff.2 ⟨_, targetFound⟩,
    consistent.node_id _ source sourceFound, consistent.node_id _ target targetFound, differ,
    joined⟩

/-! ## What each change keeps -/

namespace EdgesTyped

theorem empty (settings : GraphSettings) : (Store.empty settings).EdgesTyped :=
  fun _ member => by cases member

/-- A loaded world has typed edges in the store if it has them by itself. -/
theorem loaded {world : Snapshot} (valid : world.Valid) (typed : world.Typed)
    (numbering : Numbering) (settings : GraphSettings) :
    EdgesTyped
      { nodes := Table.ofList (world.nodes.map fun node => (node.id, node))
        edges := Table.ofList (world.edges.map fun edge => (edge.id, edge))
        numbering := numbering
        settings := settings
        selection := none } := by
  have nodeFound : ∀ node ∈ world.nodes,
      (Table.ofList (world.nodes.map fun node => (node.id, node))).get? node.id = some node :=
    fun node member => (Table.get?_ofList_map_iff valid.nodes_nodup).2 ⟨member, rfl⟩
  intro edge member
  obtain ⟨id, found⟩ := Table.mem_values_iff.1 member
  obtain ⟨inside, -⟩ := (Table.get?_ofList_map_iff valid.edges_nodup).1 found
  obtain ⟨source, sourceMember, target, targetMember, fromHere, toThere, differ, joined⟩ :=
    typed edge inside
  exact ⟨differ, source, target, fromHere ▸ nodeFound source sourceMember,
    toThere ▸ nodeFound target targetMember, joined⟩

variable (typed : store.EdgesTyped)

include typed

/-- Edges stay typed where none comes and their ends keep their kinds. -/
theorem of_keepsKind (edges : ∀ edge ∈ after.edges.values, edge ∈ store.edges.values)
    (kinds : ∀ edge ∈ after.edges.values,
      KeepsKind store after edge.source ∧ KeepsKind store after edge.target) :
    after.EdgesTyped := by
  intro edge member
  have joins := typed edge (edges edge member)
  exact joins.of_keepsKind (kinds edge member).1 (kinds edge member).2 rfl rfl rfl

theorem nodeAdded {id : ElementId} (node : Node) (numbering : Numbering)
    (fresh : id ∉ store.nodes.keys) :
    EdgesTyped { store with nodes := store.nodes.insert id node, numbering := numbering } := by
  refine typed.of_keepsKind (fun _ member => member) fun edge _ => ?_
  have keeps := keepsKind_nodeAdded node numbering fresh
  exact ⟨keeps edge.source, keeps edge.target⟩

theorem nodeReplaced {id : ElementId} {old new : Node} (found : store.nodes.get? id = some old)
    (own : new.type = old.type) :
    EdgesTyped { store with nodes := store.nodes.insert id new } := by
  refine typed.of_keepsKind (fun _ member => member) fun edge _ => ?_
  have keeps := keepsKind_nodeReplaced found own
  exact ⟨keeps edge.source, keeps edge.target⟩

theorem edgeBound (id : ElementId) {edge : Edge} (numbering : Numbering)
    (joins : store.Joins edge) :
    EdgesTyped { store with edges := store.edges.insert id edge, numbering := numbering } := by
  intro other member
  obtain ⟨key, found⟩ := Table.mem_values_iff.1 member
  rw [Table.get?_insert] at found
  split at found
  · cases found
    exact joins
  · exact typed other (Table.mem_values_iff.2 ⟨key, found⟩)

/-- An edge that is made by connecting nodes is of the kind that joins them. -/
theorem connect (consistent : store.Consistent) {source target id : ElementId} {kind : EdgeKind}
    (made : store.connect source target kind = .ok (after, id)) : after.EdgesTyped := by
  obtain ⟨sourceNode, targetNode, sourceFound, targetFound, allowed⟩ := connect_joins made
  obtain ⟨numbering, -, -, -, rfl⟩ := addEdge_eq_ok (connect_eq_ok made)
  obtain ⟨differ, joined, -⟩ := validateConnection_eq_ok_iff.1 allowed
  rw [consistent.node_id source sourceNode sourceFound,
    consistent.node_id target targetNode targetFound] at differ
  exact typed.edgeBound id numbering
    ⟨differ, sourceNode, targetNode, sourceFound, targetFound, joined⟩

/-- A deletion takes the edges of a node with it, so the others keep their ends. -/
theorem removed (sound : store.Sound) {id : ElementId} {gone : Removal}
    (found : store.removal id = .ok gone) : (store.without gone).EdgesTyped :=
  typed.of_keepsKind (fun _ member => (sound.keepsKind_without found member).1)
    fun _ member => (sound.keepsKind_without found member).2

end EdgesTyped

theorem Adds.edgesTyped {id : ElementId} (adds : Adds store after id .node) (sound : store.Sound)
    (typed : store.EdgesTyped) : after.EdgesTyped := by
  cases adds with
  | node type id numbering node allocated own =>
    exact typed.nodeAdded node numbering fun stored => sound.not_holds allocated (Or.inl stored)

/-! ## Editing sessions -/

/-- **A step keeps edges typed** unless it adds one without a look at the kinds of its ends. -/
theorem EdgesTyped.step (typed : store.EdgesTyped) (sound : store.Sound) {operation : Operation}
    (brings : operation.BringsTyped) : (store.step operation).1.EdgesTyped := by
  cases operation with
  | addNode type position =>
    exact settle_invariant typed fun _ made => (addNode_adds made).edgesTyped sound typed
  | addSublocation parent name =>
    exact settle_invariant typed fun _ made => (addSublocation_adds made).edgesTyped sound typed
  | addEdge source target kind => exact brings.elim
  | connect source target kind =>
    exact settle_invariant typed fun _ made => typed.connect sound.consistent made
  | requestEdge source target =>
    refine settle_invariant typed fun _ made => ?_
    obtain ⟨type, joined⟩ := requestEdge_eq_ok made
    exact typed.connect sound.consistent joined
  | patchNode id patch =>
    refine settle_invariant typed fun _ made => ?_
    obtain ⟨old, found, rfl⟩ := patchNode_eq_ok made
    exact typed.nodeReplaced found (patch.type_onNode old)
  | patchEdge id patch =>
    refine settle_invariant typed fun _ made => ?_
    obtain ⟨old, found, rfl⟩ := patchEdge_eq_ok made
    have joins := typed old (Table.mem_values_iff.2 ⟨id, found⟩)
    refine typed.edgeBound id store.numbering (joins.of_keepsKind ?_ ?_ rfl rfl ?_)
    · exact keepsKind_of_nodes rfl old.source
    · exact keepsKind_of_nodes rfl old.target
    · exact patch.type_onEdge old
  | rename id name =>
    refine settle_invariant typed fun _ made => ?_
    obtain ⟨old, found, rfl⟩ := rename_eq_ok made
    exact typed.nodeReplaced found rfl
  | setBody id field body =>
    refine settle_invariant typed fun _ made => ?_
    obtain ⟨old, found, rfl⟩ := setBody_eq_ok made
    refine typed.nodeReplaced found ?_
    cases field <;> rfl
  | delete id =>
    refine settle_invariant typed fun _ made => ?_
    obtain ⟨gone, found, made⟩ := bind_eq_ok_iff.1 made
    cases pure_eq_ok_iff.1 made
    exact typed.removed sound found
  | clear => exact EdgesTyped.empty store.settings
  | load world =>
    refine settle_invariant typed fun _ made => ?_
    obtain ⟨⟨⟩, valid, made⟩ := bind_eq_ok_iff.1 made
    cases pure_eq_ok_iff.1 made
    exact .loaded (Snapshot.validate_eq_ok_iff.1 valid) (brings valid) _ store.settings
  | select id =>
    refine settle_invariant typed fun _ made => ?_
    unfold Store.select at made
    split at made <;> cases made
    exact typed
  | clearSelection => exact typed

theorem EdgesTyped.run (typed : store.EdgesTyped) (sound : store.Sound)
    {operations : List Operation} (brings : ∀ operation ∈ operations, operation.BringsTyped) :
    (store.run operations).EdgesTyped := by
  induction operations generalizing store with
  | nil => exact typed
  | cons operation rest ih =>
    rw [List.forall_mem_cons] at brings
    have next := sound.change (store.step_change operation)
    exact ih (typed.step sound brings.1) next brings.2

/-- **Typed edges stay typed.** In an editing session, whatever it consists of and whatever is
refused, edges may come in by connecting nodes, by requests, and with worlds whose edges are typed.
In every store that it reaches each edge joins two different stored nodes, and its kind is the one
that joins the kinds which these nodes have by then; the edges of the snapshot are typed. A part of
a session from its beginning is a session itself. -/
theorem run_edgesTyped (settings : GraphSettings) {operations : List Operation}
    (brings : ∀ operation ∈ operations, operation.BringsTyped) :
    let reached := (Store.empty settings).run operations
    reached.EdgesTyped ∧ reached.snapshot.Typed := by
  have typed := (EdgesTyped.empty settings).run (Sound.empty settings) brings
  exact ⟨typed, typed.typed_snapshot ((Sound.empty settings).run operations).consistent⟩

/-- A quay where a gull may turn up. -/
def quay : Snapshot where
  nodes := [Node.blank ⟨"quay"⟩ "Quay" .location, Node.blank ⟨"gull"⟩ "Gull" (.character [])]
  edges := [⟨⟨"screech"⟩, ⟨"gull"⟩, ⟨"quay"⟩, .spawn 0.5 .empty⟩]

/-- A pier is built at the quay, the gull moves there and is disturbed there. Two of the requests
make no sense. -/
def quayDay : List Operation :=
  [.load quay, .addNode .location none,
    .requestEdge ⟨"quay"⟩ (.numbered (.node .location) 1),
    .connect ⟨"gull"⟩ (.numbered (.node .location) 1) (.spawn 0.25 .empty),
    .connect ⟨"gull"⟩ (.numbered (.node .location) 1) .adjacent, .requestEdge ⟨"quay"⟩ ⟨"quay"⟩,
    .rename ⟨"quay"⟩ "Wharf", .patchNode ⟨"gull"⟩ { disabledFor := some ["night"] },
    .patchEdge (.numbered .edge 2) { probability := some 0.75 }, .delete ⟨"screech"⟩]

theorem run_edgesTyped_quayDay :
    let reached := (Store.empty {}).run quayDay
    (∀ operation ∈ quayDay, operation.BringsTyped) ∧
      reached.edges.values.map Edge.type = [.adjacent, .spawn] ∧
      reached.EdgesTyped ∧ reached.snapshot.Typed := by
  have brings : ∀ operation ∈ quayDay, operation.BringsTyped := by decide +kernel
  exact ⟨brings, by decide +kernel, run_edgesTyped {} brings⟩

end Store

end StoryWorld
