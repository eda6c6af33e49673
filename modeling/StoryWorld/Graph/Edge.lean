import StoryWorld.Graph.Identity
import StoryWorld.Table

/-!
# Edges

An edge leads from one node to another: a character or event spawns at a location, two locations are
adjacent, or two characters know each other.
-/

set_option autoImplicit false

namespace StoryWorld

/-- What only edges of one kind have. -/
inductive EdgeKind where
  /-- The probability to appear at the target, and others for sublocations of it by name. A
  probability of zero for a sublocation means never there. -/
  | spawn (probability : Float) (overrides : Table String Float)
  | adjacent
  | knows (relationship sourceThinks targetThinks : String)
  deriving DecidableEq

/-- The kind without its data. -/
def EdgeKind.type : EdgeKind → EdgeType
  | .spawn .. => .spawn
  | .adjacent => .adjacent
  | .knows .. => .knows

/-- An edge of a world. -/
structure Edge where
  id : ElementId
  source : ElementId
  target : ElementId
  kind : EdgeKind
  deriving DecidableEq

namespace Edge

/-- The kind of the edge. -/
def type (edge : Edge) : EdgeType := edge.kind.type

/-- Whether a node is an end of the edge. -/
def touches (edge : Edge) (node : ElementId) : Bool :=
  decide (edge.source = node ∨ edge.target = node)

/-- The end opposite to a node, if the node is an end. -/
def otherEnd (edge : Edge) (node : ElementId) : Option ElementId :=
  if edge.source = node then some edge.target
  else if edge.target = node then some edge.source
  else none

/-- Whether the edge joins two nodes, in either direction. -/
def joins (edge : Edge) (a b : ElementId) : Bool :=
  decide ((edge.source = a ∧ edge.target = b) ∨ (edge.source = b ∧ edge.target = a))

end Edge

end StoryWorld
