import StoryWorld.Graph.Edge
import StoryWorld.Graph.Node
import StoryWorld.Graph.Refusal

/-!
# Connections

Which kind of edge may lead from one kind of node to another is fixed by a table. Beyond the table,
no node is joined to itself, and an event that happens anywhere takes no spawn edges.
-/

set_option autoImplicit false

namespace StoryWorld

/-- The kinds of source and target that can be joined, with the kind of edge between them. -/
def connectionTable : List ((NodeType × NodeType) × EdgeType) :=
  [((.character, .location), .spawn), ((.event, .location), .spawn),
    ((.location, .location), .adjacent), ((.character, .character), .knows)]

/-- The kind of edge that joins two kinds of nodes, if they can be joined. -/
def connectionType (source target : NodeType) : Option EdgeType :=
  connectionTable.lookup (source, target)

/-- Accepts an edge of the requested kind between two nodes, or says why there cannot be one. -/
def validateConnection (source target : Node) (requested : EdgeType) : Except Refusal Unit :=
  if source.id = target.id then .error (.selfConnection source.id)
  else if connectionType source.type target.type ≠ some requested then
    .error (.invalidConnection source.type target.type requested)
  else if requested = .spawn ∧ source.isGlobalEvent = true then .error (.globalEventSpawn source.id)
  else .ok ()

end StoryWorld
