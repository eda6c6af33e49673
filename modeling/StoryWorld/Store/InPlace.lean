import StoryWorld.Store.Operation

/-!
# Editing in place

`Store.step` computes a new store and drops it when an operation is refused. Here the same
operations are carried out on the store itself, one read, check or write after another: a change is
an `Edit`, and whatever it has written before it fails stays written. The counter of a scope moves
on before the element is stored, a patch writes field by field, a deletion removes the edge or the
nodes before it looks at the selection, and one operation may be carried out within another.
`Store.perform` asks a store for one operation in this way.
-/

set_option autoImplicit false

namespace StoryWorld

/-- The fields of a patch one by one, in the order in which they are written. -/
def NodePatch.parts (patch : NodePatch) : List NodePatch :=
  [{ name := patch.name }, { keywords := patch.keywords }, { content := patch.content },
    { contentShort := patch.contentShort }, { images := patch.images },
    { filters := patch.filters }, { position := patch.position },
    { disabledFor := patch.disabledFor }, { timeFilter := patch.timeFilter },
    { isGlobal := patch.isGlobal }, { globalSpawnChance := patch.globalSpawnChance }]

/-- The fields of a patch one by one, in the order in which they are written. -/
def EdgePatch.parts (patch : EdgePatch) : List EdgePatch :=
  [{ probability := patch.probability },
    { sublocationProbabilities := patch.sublocationProbabilities },
    { relationship := patch.relationship }, { sourceThinks := patch.sourceThinks },
    { targetThinks := patch.targetThinks }]

/-- A change that works on the store itself and may fail on the way. -/
abbrev Edit (α : Type) : Type := ExceptT Refusal (StateM Store) α

namespace Edit

/-! ## Single steps -/

/-- Goes on with the result of a check that writes nothing, or fails with its refusal. -/
def check {α : Type} (outcome : Except Refusal α) : Edit α := ExceptT.mk (pure outcome)

/-- Overwrites a part of the store. -/
def write (change : Store → Store) : Edit Unit := modify change

/-- Changes a stored node where it stands. -/
def writeNode (id : ElementId) (change : Node → Node) : Edit Unit :=
  write fun store => { store with nodes := store.nodes.adjust id change }

/-- Changes a stored edge where it stands. -/
def writeEdge (id : ElementId) (change : Edge → Edge) : Edit Unit :=
  write fun store => { store with edges := store.edges.adjust id change }

/-! ## Adding -/

/-- Takes a new identity from the numbering of the store, which moves on. -/
def allocate (kind : IdKind) : Edit ElementId := do
  let store ← get
  match store.numbering.next? kind.scope with
  | none => throw (.idsExhausted kind.scope)
  | some ordinal => do
    write fun store =>
      { store with
        numbering := store.numbering.setNext (Numbering.successor? ordinal) kind.scope }
    return .numbered kind ordinal

/-- Adds a node of a kind, and tells its identity. -/
def addNode (type : NodeType) (position : Option Position) : Edit ElementId := do
  let store ← get
  let kind ← check (Store.newKind store.settings type)
  let id ← allocate (.node type)
  let node : Node :=
    { Node.blank id type.defaultName kind with position := position.getD store.freePosition }
  write fun store => { store with nodes := store.nodes.insert id node }
  return id

/-- Refuses a node that is not a location. -/
def requireLocation (id : ElementId) (node : Node) : Except Refusal Unit :=
  if node.type = .location then .ok () else .error (.notALocation id)

/-- Adds a sublocation to a location, and tells its identity. -/
def addSublocation (parent : ElementId) (name : String) : Edit ElementId := do
  let store ← get
  let location ← check (store.requireNode parent)
  check (requireLocation parent location)
  let position := location.position.offset (store.sublocationShift parent location.position)
    store.settings.sublocationDrop
  let name := if name = "" then NodeType.sublocation.defaultName else name
  let id ← allocate (.node .sublocation)
  let node : Node := { Node.blank id name (.sublocation parent) with position := position }
  write fun store => { store with nodes := store.nodes.insert id node }
  return id

/-- Adds an edge between two nodes whatever their kinds, and tells its identity. -/
def addEdge (source target : ElementId) (kind : EdgeKind) : Edit ElementId := do
  let store ← get
  let _ ← check (store.requireNode source)
  let _ ← check (store.requireNode target)
  let id ← allocate .edge
  write fun store => { store with edges := store.edges.insert id ⟨id, source, target, kind⟩ }
  return id

/-- Adds an edge between two nodes that it may join, and tells its identity. -/
def connect (source target : ElementId) (kind : EdgeKind) : Edit ElementId := do
  let store ← get
  let sourceNode ← check (store.requireNode source)
  let targetNode ← check (store.requireNode target)
  check (validateConnection sourceNode targetNode kind.type)
  addEdge source target kind

/-- The kind of edge that two kinds of nodes can be joined by, or the refusal if there is none. -/
def requireConnection (source target : NodeType) : Except Refusal EdgeType :=
  match connectionType source target with
  | some type => .ok type
  | none => .error (.unconnectable source target)

/-- Adds the edge that two nodes can be joined by, and tells its identity. -/
def requestEdge (source target : ElementId) : Edit ElementId := do
  let store ← get
  let sourceNode ← check (store.requireNode source)
  let targetNode ← check (store.requireNode target)
  let type ← check (requireConnection sourceNode.type targetNode.type)
  connect source target (Store.newEdgeKind store.settings type)

/-! ## Changing -/

/-- The node that a patch is for, or the refusal if there is none. -/
def nodeToPatch (store : Store) (id : ElementId) : Except Refusal Node :=
  match store.nodes.get? id with
  | some node => .ok node
  | none => .error (store.missing id .node)

/-- The edge that a patch is for, or the refusal if there is none. -/
def edgeToPatch (store : Store) (id : ElementId) : Except Refusal Edge :=
  match store.edges.get? id with
  | some edge => .ok edge
  | none => .error (store.missing id .edge)

/-- Refuses a patch with a field that the node does not carry. -/
def checkNodePatch (patch : NodePatch) (node : Node) : Except Refusal Unit :=
  match patch.offending? node.type with
  | some field => .error (.inapplicableField node.id node.type field)
  | none => .ok ()

/-- Refuses a patch with a field that the edge does not carry. -/
def checkEdgePatch (patch : EdgePatch) (edge : Edge) : Except Refusal Unit :=
  match patch.offending? edge.type with
  | some field => .error (.inapplicableEdgeField edge.id edge.type field)
  | none => .ok ()

/-- Patches a node, one field after another. -/
def patchNode (id : ElementId) (patch : NodePatch) : Edit Unit := do
  let store ← get
  let node ← check (nodeToPatch store id)
  check (checkNodePatch patch node)
  patch.parts.forM fun part => writeNode id part.onNode

/-- Patches an edge, one field after another. -/
def patchEdge (id : ElementId) (patch : EdgePatch) : Edit Unit := do
  let store ← get
  let edge ← check (edgeToPatch store id)
  check (checkEdgePatch patch edge)
  patch.parts.forM fun part => writeEdge id part.onEdge

/-- Renames a node. The name comes last: the texts are read under the old one. -/
def rename (id : ElementId) (name : String) : Edit Unit := do
  let store ← get
  let _ ← check (store.requireNode id)
  writeNode id fun node =>
    { node with content := Store.rekeyed node.content node.name name node.type }
  writeNode id fun node =>
    { node with
      contentShort := node.contentShort.map fun stored =>
        Store.rekeyed stored node.name name node.type }
  writeNode id fun node => { node with name := name }

/-- Refuses a text that nodes of a kind do not carry. -/
def requireField (node : Node) (id : ElementId) (field : ContentField) : Except Refusal Unit :=
  if node.type.carries field.field then .ok ()
  else .error (.inapplicableField id node.type field.field)

/-- Stores the body of a text of a node. -/
def setBody (id : ElementId) (field : ContentField) (body : String) : Edit Unit := do
  let store ← get
  let node ← check (store.requireNode id)
  let stored := Body.encode body node.name node.type
  check (requireField node id field)
  match field with
  | .content => writeNode id fun node => { node with content := stored }
  | .contentShort => writeNode id fun node => { node with contentShort := some stored }

/-! ## Deleting -/

/-- Takes a node out with its sublocations and all their edges, the nodes first. -/
def takeNode (id : ElementId) : Edit Removal := do
  let store ← get
  let nodes := store.doomedNodes id
  let edges := store.doomedEdges nodes
  let gone : Removal :=
    ⟨store.nodes.keys.filter fun key => decide (key ∈ nodes),
      store.edges.keys.filter fun key => decide (key ∈ edges)⟩
  write fun store => { store with nodes := store.nodes.filter fun key _ => decide (key ∉ nodes) }
  write fun store => { store with edges := store.edges.filter fun key _ => decide (key ∉ edges) }
  return gone

/-- Takes an element out with all that depends on it: an edge if there is one, else a node. -/
def takeOut (id : ElementId) : Edit Removal := do
  let store ← get
  if store.edges.contains id then do
    write fun store => { store with edges := store.edges.erase id }
    return ⟨[], [id]⟩
  else if store.nodes.contains id then takeNode id
  else throw (.unknownElement id)

/-- Deletes an element with all that depends on it, and tells what has been removed. -/
def delete (id : ElementId) : Edit Removal := do
  let gone ← takeOut id
  write fun store =>
    { store with
      selection := store.selection.filter fun id => decide (id ∉ gone.nodes ∧ id ∉ gone.edges) }
  return gone

/-- Removes everything and starts the numbering over. -/
def clear : Edit Unit := do
  write fun store => { store with nodes := .empty }
  write fun store => { store with edges := .empty }
  write fun store => { store with numbering := .start }
  write fun store => { store with selection := none }

/-! ## Loading and selecting -/

/-- Replaces the world by a snapshot, if that is valid. Numbering continues past its identities. -/
def load (world : Snapshot) : Edit Unit := do
  check world.validate
  write fun store => { store with numbering := .pastAll world.ids }
  write fun store =>
    { store with nodes := Table.ofList (world.nodes.map fun node => (node.id, node)) }
  write fun store =>
    { store with edges := Table.ofList (world.edges.map fun edge => (edge.id, edge)) }
  write fun store => { store with selection := none }

/-- Refuses an identity that nothing is stored under. -/
def requireElement (store : Store) (id : ElementId) : Except Refusal Unit :=
  if (store.element? id).isSome then .ok () else .error (.unknownElement id)

/-- Selects an element. -/
def select (id : ElementId) : Edit Unit := do
  let store ← get
  check (requireElement store id)
  write fun store => { store with selection := some id }

/-- Selects nothing. -/
def clearSelection : Edit Unit := write fun store => { store with selection := none }

/-! ## Operations -/

/-- The store that a change leaves behind, whether or not it fails, and the reply to it. -/
def answer {α : Type} (edit : Edit α) (accept : α → Reply) (store : Store) : Store × Reply :=
  match edit store with
  | (.ok result, after) => (after, accept result)
  | (.error why, after) => (after, .refused why)

end Edit

/-- Carries out one operation on the store itself. -/
def Store.perform (store : Store) : Operation → Store × Reply
  | .addNode type position => (Edit.addNode type position).answer .added store
  | .addSublocation parent name => (Edit.addSublocation parent name).answer .added store
  | .addEdge source target kind => (Edit.addEdge source target kind).answer .added store
  | .connect source target kind => (Edit.connect source target kind).answer .added store
  | .requestEdge source target => (Edit.requestEdge source target).answer .added store
  | .patchNode id patch => (Edit.patchNode id patch).answer (fun _ => .done) store
  | .patchEdge id patch => (Edit.patchEdge id patch).answer (fun _ => .done) store
  | .rename id name => (Edit.rename id name).answer (fun _ => .done) store
  | .setBody id field body => (Edit.setBody id field body).answer (fun _ => .done) store
  | .delete id => (Edit.delete id).answer .removed store
  | .clear => Edit.clear.answer (fun _ => .done) store
  | .load world => (Edit.load world).answer (fun _ => .done) store
  | .select id => (Edit.select id).answer (fun _ => .done) store
  | .clearSelection => Edit.clearSelection.answer (fun _ => .done) store

end StoryWorld
