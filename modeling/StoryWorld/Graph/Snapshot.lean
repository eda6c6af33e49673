import StoryWorld.Graph.Edge
import StoryWorld.Graph.Node
import StoryWorld.Graph.Refusal

/-!
# Snapshots

A snapshot is a whole world as a value: its nodes and its edges, each in order. Any two lists make
a snapshot; it is valid if no identity occurs twice, every sublocation belongs to a location of the
snapshot, and every edge has nodes of the snapshot at both ends. `complaint?` finds the first thing
that is wrong, in this order.
-/

set_option autoImplicit false

namespace StoryWorld

/-- The first item of a list that occurs before. -/
def firstRepeat? {α : Type} [DecidableEq α] (seen : List α) : List α → Option α
  | [] => none
  | item :: rest => if item ∈ seen then some item else firstRepeat? (item :: seen) rest

/-- The nodes and edges of a world. -/
structure Snapshot where
  nodes : List Node
  edges : List Edge
  deriving DecidableEq

namespace Snapshot

/-- The world without elements. -/
def empty : Snapshot := ⟨[], []⟩

/-- Whether there are no elements. -/
def isEmpty (world : Snapshot) : Bool := world.nodes.isEmpty && world.edges.isEmpty

/-- The first node with an identity. -/
def node? (world : Snapshot) (id : ElementId) : Option Node :=
  world.nodes.find? fun node => decide (node.id = id)

/-- The last node with an identity. -/
def lastNode? (world : Snapshot) (id : ElementId) : Option Node :=
  world.nodes.reverse.find? fun node => decide (node.id = id)

/-- The nodes of one kind, in order. -/
def nodesOf (world : Snapshot) (type : NodeType) : List Node :=
  world.nodes.filter fun node => decide (node.type = type)

/-- The edges of one kind, in order. -/
def edgesOf (world : Snapshot) (type : EdgeType) : List Edge :=
  world.edges.filter fun edge => decide (edge.type = type)

/-- The identities of the nodes, then those of the edges. -/
def ids (world : Snapshot) : List ElementId :=
  world.nodes.map Node.id ++ world.edges.map Edge.id

/-- The complaint about a sublocation whose parent is no location. -/
def orphan? (world : Snapshot) (node : Node) : Option Refusal :=
  match node.parent with
  | none => none
  | some parent =>
    if (world.node? parent).map Node.type = some .location then none
    else some (.orphanedSublocation node.id parent)

/-- The complaint about an edge without a node at an end; the source is looked at first. -/
def dangling? (world : Snapshot) (edge : Edge) : Option Refusal :=
  [edge.source, edge.target].findSome? fun id =>
    if (world.node? id).isSome then none else some (.danglingEdge edge.id id)

/-- The first thing that is wrong with a snapshot. -/
def complaint? (world : Snapshot) : Option Refusal :=
  ((firstRepeat? [] world.ids).map Refusal.duplicateId).or
    ((world.nodes.findSome? world.orphan?).or (world.edges.findSome? world.dangling?))

/-- Accepts a valid snapshot and refuses any other. -/
def validate (world : Snapshot) : Except Refusal Unit :=
  match world.complaint? with
  | some refusal => .error refusal
  | none => .ok ()

end Snapshot

end StoryWorld
