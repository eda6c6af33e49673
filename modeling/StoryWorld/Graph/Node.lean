import StoryWorld.Graph.Identity
import StoryWorld.Json.Basic

/-!
# Nodes

A node of a world is a location, a character, an event or a sublocation of a location. All nodes
have a name, keywords, texts, images, filters and a place on the canvas; what only one kind of node
has stands in its `NodeKind`. The first keyword is what the rest of the world knows the node by.
-/

set_option autoImplicit false

namespace StoryWorld

/-- A place on the canvas. -/
structure Position where
  x : Float
  y : Float
  deriving DecidableEq

namespace Position

/-- The corner of the canvas. -/
def origin : Position := ⟨0, 0⟩

/-- A place shifted by the given amounts. -/
def offset (position : Position) (dx dy : Float) : Position := ⟨position.x + dx, position.y + dy⟩

end Position

/-- The addresses of the images under one key: a single one or a list. -/
inductive ImageUrls where
  | one (url : String)
  | many (urls : List String)
  deriving DecidableEq

/-- The addresses, however they are given. -/
def ImageUrls.toList : ImageUrls → List String
  | .one url => [url]
  | .many urls => urls

/-- Images by time or context, such as day and night. -/
abbrev Images := Table String ImageUrls

/-- When something is active: tags of which one is required, and conditions kept as they are. -/
structure Filters where
  requiresAny : List String
  other : Table String Json
  deriving DecidableEq

namespace Filters

/-- No conditions. -/
def none : Filters := ⟨[], .empty⟩

/-- The condition that one of the tags holds. -/
def requiringAny (tags : List String) : Filters := ⟨tags, .empty⟩

end Filters

/-- What only nodes of one kind have. -/
inductive NodeKind where
  | location
  | character (disabledFor : List String)
  | event (timeFilter : List String) (isGlobal : Bool) (globalSpawnChance : Float)
  | sublocation (parent : ElementId)
  deriving DecidableEq

/-- The kind without its data. -/
def NodeKind.type : NodeKind → NodeType
  | .location => .location
  | .character _ => .character
  | .event .. => .event
  | .sublocation _ => .sublocation

/-- A node of a world. -/
structure Node where
  id : ElementId
  name : String
  /-- The first keyword links the node to others. -/
  keywords : List String
  content : String
  /-- Events and sublocations have none. -/
  contentShort : Option String
  images : Images
  filters : Filters
  position : Position
  kind : NodeKind
  deriving DecidableEq

namespace Node

/-- A node with nothing but a name. -/
def blank (id : ElementId) (name : String) (kind : NodeKind) : Node where
  id := id
  name := name
  keywords := []
  content := ""
  contentShort :=
    match kind with
    | .location | .character _ => some ""
    | .event .. | .sublocation _ => none
  images := .empty
  filters := .none
  position := .origin
  kind := kind

/-- The kind of the node. -/
def type (node : Node) : NodeType := node.kind.type

/-- What the rest of the world knows the node by. -/
def firstKeyword (node : Node) : Option String := node.keywords.head?

/-- The location that a sublocation belongs to. -/
def parent (node : Node) : Option ElementId :=
  match node.kind with
  | .sublocation parent => some parent
  | _ => none

/-- Whether the node is an event that may happen anywhere. -/
def isGlobalEvent (node : Node) : Bool :=
  match node.kind with
  | .event _ isGlobal _ => isGlobal
  | _ => false

end Node

end StoryWorld
