import StoryWorld.Graph.Body
import StoryWorld.Graph.Connection
import StoryWorld.Graph.Patch
import StoryWorld.Graph.Settings
import StoryWorld.Graph.Snapshot
import StoryWorld.Store.Numbering

/-!
# The store

A store holds a world while it is edited: nodes and edges by identity in order of insertion, the
numbering that new elements are named from, settings, and the element that is selected.

Each change is a function from the store and its arguments to a new store, or to the refusal. A
refused change yields no store, so nothing of it can be seen. Deleting a node takes its edges with
it, and a location its sublocations and their edges.
-/

set_option autoImplicit false

namespace StoryWorld

/-- A world that is being edited. -/
structure Store where
  nodes : Table ElementId Node
  edges : Table ElementId Edge
  numbering : Numbering
  settings : GraphSettings
  selection : Option ElementId
  deriving DecidableEq

/-- A stored node or a stored edge. -/
inductive Element where
  | node (node : Node)
  | edge (edge : Edge)
  deriving DecidableEq

/-- The two texts of a node that carry its key. -/
inductive ContentField where
  | content
  | contentShort
  deriving DecidableEq

/-- The field of a node that holds a text. -/
def ContentField.field : ContentField → NodeField
  | .content => .content
  | .contentShort => .contentShort

/-- What a deletion has removed. -/
structure Removal where
  nodes : List ElementId
  edges : List ElementId
  deriving DecidableEq

namespace Store

/-! ## Looking -/

/-- The store without elements. -/
def empty (settings : GraphSettings) : Store := ⟨.empty, .empty, .start, settings, none⟩

/-- The nodes and edges as a value. -/
def snapshot (store : Store) : Snapshot := ⟨store.nodes.values, store.edges.values⟩

/-- Whether there are no elements. -/
def isEmpty (store : Store) : Bool := store.nodes.isEmpty && store.edges.isEmpty

/-- The element with an identity. -/
def element? (store : Store) (id : ElementId) : Option Element :=
  ((store.nodes.get? id).map Element.node).or ((store.edges.get? id).map Element.edge)

/-- The selected element as it is now. -/
def selected? (store : Store) : Option Element := store.selection.bind store.element?

/-- The sublocations of a location. -/
def sublocationsOf (store : Store) (parent : ElementId) : List Node :=
  store.nodes.values.filter fun node => decide (node.parent = some parent)

/-- The edges with an end at a node. -/
def edgesTouching (store : Store) (node : ElementId) : List Edge :=
  store.edges.values.filter fun edge => edge.touches node

/-- The node with an identity, or the refusal if there is none. -/
def requireNode (store : Store) (id : ElementId) : Except Refusal Node :=
  match store.nodes.get? id with
  | some node => .ok node
  | none => .error (.unknownElement id)

/-- The kind of edge that a request would make between two nodes, if they can be joined. -/
def edgeTypeBetween (store : Store) (source target : ElementId) :
    Except Refusal (Option EdgeType) := do
  let sourceNode ← store.requireNode source
  let targetNode ← store.requireNode target
  return if source = target then none else connectionType sourceNode.type targetNode.type

/-- The body of a text of a node. -/
def contentBody? (store : Store) (id : ElementId) (field : ContentField) : Option String := do
  let node ← store.nodes.get? id
  let stored ←
    match field with
    | .content => some node.content
    | .contentShort => node.contentShort
  return Body.decode stored node.name node.type

/-! ## Adding -/

/-- Where a node goes that is given no place: down a diagonal that starts over after ten nodes. -/
def freePosition (store : Store) : Position :=
  let step := Float.ofNat (store.nodes.size % 10) * store.settings.nodeStagger
  store.settings.nodeOrigin.offset step step

/-- The data of a new node of a kind; a sublocation needs a parent. -/
def newKind (settings : GraphSettings) : NodeType → Except Refusal NodeKind
  | .location => .ok .location
  | .character => .ok (.character [])
  | .event => .ok (.event [] false settings.defaultGlobalSpawnChance)
  | .sublocation => .error .sublocationRequiresParent

/-- Adds a node of a kind, and tells its identity. -/
def addNode (store : Store) (type : NodeType) (position : Option Position) :
    Except Refusal (Store × ElementId) := do
  let kind ← newKind store.settings type
  let (id, numbering) ← store.numbering.allocate (.node type)
  let node : Node :=
    { Node.blank id type.defaultName kind with position := position.getD store.freePosition }
  return ({ store with nodes := store.nodes.insert id node, numbering := numbering }, id)

/-- The greater of two doubles; one that is not a number does not count. -/
def greater (a b : Float) : Float :=
  if a.isNaN then b else if a < b then b else a

/-- How far right of its location a new sublocation goes: one step past the siblings, and not to the
left. -/
def sublocationShift (store : Store) (parent : ElementId) (place : Position) : Float :=
  (store.sublocationsOf parent).foldl
    (fun shift sibling =>
      greater shift (sibling.position.x - place.x + store.settings.sublocationSpacing))
    0

/-- Adds a sublocation to a location, and tells its identity. -/
def addSublocation (store : Store) (parent : ElementId) (name : String) :
    Except Refusal (Store × ElementId) := do
  let location ← store.requireNode parent
  if location.type ≠ .location then throw (.notALocation parent)
  let position := location.position.offset (store.sublocationShift parent location.position)
    store.settings.sublocationDrop
  let name := if name = "" then NodeType.sublocation.defaultName else name
  let (id, numbering) ← store.numbering.allocate (.node .sublocation)
  let node : Node := { Node.blank id name (.sublocation parent) with position := position }
  return ({ store with nodes := store.nodes.insert id node, numbering := numbering }, id)

/-- Adds an edge between two nodes whatever their kinds, and tells its identity. -/
def addEdge (store : Store) (source target : ElementId) (kind : EdgeKind) :
    Except Refusal (Store × ElementId) := do
  let _ ← store.requireNode source
  let _ ← store.requireNode target
  let (id, numbering) ← store.numbering.allocate .edge
  let edge : Edge := ⟨id, source, target, kind⟩
  return ({ store with edges := store.edges.insert id edge, numbering := numbering }, id)

/-- Adds an edge between two nodes that it may join, and tells its identity. -/
def connect (store : Store) (source target : ElementId) (kind : EdgeKind) :
    Except Refusal (Store × ElementId) := do
  let sourceNode ← store.requireNode source
  let targetNode ← store.requireNode target
  validateConnection sourceNode targetNode kind.type
  store.addEdge source target kind

/-- The data of a new edge of a kind. -/
def newEdgeKind (settings : GraphSettings) : EdgeType → EdgeKind
  | .spawn => .spawn settings.defaultSpawnProbability .empty
  | .adjacent => .adjacent
  | .knows => .knows "" "" ""

/-- Adds the edge that two nodes can be joined by, and tells its identity. -/
def requestEdge (store : Store) (source target : ElementId) :
    Except Refusal (Store × ElementId) := do
  let sourceType := (← store.requireNode source).type
  let targetType := (← store.requireNode target).type
  match connectionType sourceType targetType with
  | none => throw (.unconnectable sourceType targetType)
  | some type => store.connect source target (newEdgeKind store.settings type)

/-! ## Changing -/

/-- The refusal of a patch for a scope at an identity that has no element in it. -/
def missing (store : Store) (id : ElementId) (expected : IdScope) : Refusal :=
  if (store.element? id).isSome then .patchMismatch id expected else .unknownElement id

/-- Patches a node. -/
def patchNode (store : Store) (id : ElementId) (patch : NodePatch) : Except Refusal Store :=
  match store.nodes.get? id with
  | none => .error (store.missing id .node)
  | some node => do
    let patched ← patch.apply node
    return { store with nodes := store.nodes.insert id patched }

/-- Patches an edge. -/
def patchEdge (store : Store) (id : ElementId) (patch : EdgePatch) : Except Refusal Store :=
  match store.edges.get? id with
  | none => .error (store.missing id .edge)
  | some edge => do
    let patched ← patch.apply edge
    return { store with edges := store.edges.insert id patched }

/-- A stored text under the key of a new name; an empty text stays empty. -/
def rekeyed (stored oldName newName : String) (type : NodeType) : String :=
  if stored = "" then "" else Body.encode (Body.decode stored oldName type) newName type

/-- A node under a new name, its texts under the new key. -/
def renamed (node : Node) (name : String) : Node :=
  { node with
    name := name
    content := rekeyed node.content node.name name node.type
    contentShort := node.contentShort.map fun stored => rekeyed stored node.name name node.type }

/-- Renames a node. -/
def rename (store : Store) (id : ElementId) (name : String) : Except Refusal Store := do
  let node ← store.requireNode id
  return { store with nodes := store.nodes.insert id (renamed node name) }

/-- A node with another body in one of its texts. -/
def withBody (node : Node) (field : ContentField) (body : String) : Node :=
  let stored := Body.encode body node.name node.type
  match field with
  | .content => { node with content := stored }
  | .contentShort => { node with contentShort := some stored }

/-- Stores the body of a text of a node. -/
def setBody (store : Store) (id : ElementId) (field : ContentField) (body : String) :
    Except Refusal Store := do
  let node ← store.requireNode id
  if node.type.carries field.field then
    return { store with nodes := store.nodes.insert id (withBody node field body) }
  else throw (.inapplicableField id node.type field.field)

/-! ## Deleting -/

/-- The nodes that go with a node: the node itself and its sublocations. -/
def doomedNodes (store : Store) (id : ElementId) : List ElementId :=
  id :: (store.sublocationsOf id).map Node.id

/-- The edges that go with nodes: those with an end among them. -/
def doomedEdges (store : Store) (nodes : List ElementId) : List ElementId :=
  (store.edges.values.filter fun edge =>
    decide (edge.source ∈ nodes ∨ edge.target ∈ nodes)).map Edge.id

/-- What goes when an element is deleted, in the order of the store. -/
def removal (store : Store) (id : ElementId) : Except Refusal Removal :=
  if store.edges.contains id then .ok ⟨[], [id]⟩
  else if store.nodes.contains id then
    let nodes := store.doomedNodes id
    let edges := store.doomedEdges nodes
    .ok ⟨store.nodes.keys.filter fun key => decide (key ∈ nodes),
      store.edges.keys.filter fun key => decide (key ∈ edges)⟩
  else .error (.unknownElement id)

/-- The store without the given elements; a selected element that goes is no longer selected. -/
def without (store : Store) (gone : Removal) : Store :=
  { store with
    nodes := store.nodes.filter fun key _ => decide (key ∉ gone.nodes)
    edges := store.edges.filter fun key _ => decide (key ∉ gone.edges)
    selection := store.selection.filter fun id => decide (id ∉ gone.nodes ∧ id ∉ gone.edges) }

/-- Deletes an element with all that depends on it, and tells what has been removed. -/
def delete (store : Store) (id : ElementId) : Except Refusal (Store × Removal) := do
  let gone ← store.removal id
  return (store.without gone, gone)

/-- Removes everything and starts the numbering over. -/
def clear (store : Store) : Store := empty store.settings

/-! ## Loading and selecting -/

/-- Replaces the world by a snapshot, if that is valid. Numbering continues past its identities. -/
def load (store : Store) (world : Snapshot) : Except Refusal Store := do
  world.validate
  return {
    nodes := Table.ofList (world.nodes.map fun node => (node.id, node))
    edges := Table.ofList (world.edges.map fun edge => (edge.id, edge))
    numbering := .pastAll world.ids
    settings := store.settings
    selection := none }

/-- Selects an element. -/
def select (store : Store) (id : ElementId) : Except Refusal Store :=
  if (store.element? id).isSome then .ok { store with selection := some id }
  else .error (.unknownElement id)

/-- Selects nothing. -/
def clearSelection (store : Store) : Store := { store with selection := none }

end Store

end StoryWorld
