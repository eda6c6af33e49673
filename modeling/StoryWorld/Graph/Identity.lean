import StoryWorld.Decimal.Form
import StoryWorld.Text.Digits
import StoryWorld.Text.Split

/-!
# Identities of nodes and edges

Every element of a world has an identity, which is a text. Identities that the world gives out
itself consist of a stem for the kind of element, an underscore, and a number, the ordinal.
Ordinals come from two counters, one for edges and one for the nodes of all kinds; which of them an
identity belongs to, its scope, and its ordinal can be read off any text whatever.
-/

set_option autoImplicit false

namespace StoryWorld

/-- The identity of a node or an edge. -/
structure ElementId where
  text : String
  deriving DecidableEq, Inhabited

/-- The two ranges of ordinals. -/
inductive IdScope where
  | node
  | edge
  deriving DecidableEq

/-- The kinds of nodes. -/
inductive NodeType where
  | location
  | character
  | event
  | sublocation
  deriving DecidableEq

/-- The kinds of edges. -/
inductive EdgeType where
  /-- A character or event may appear at a location. -/
  | spawn
  /-- Two locations border each other. -/
  | adjacent
  /-- Two characters are acquainted. -/
  | knows
  deriving DecidableEq

/-- What an identity can be given to. -/
inductive IdKind where
  | node (type : NodeType)
  | edge
  deriving DecidableEq

namespace IdScope

/-- The name of a scope. -/
def name : IdScope → String
  | .node => "node"
  | .edge => "edge"

end IdScope

namespace NodeType

/-- All kinds of nodes. -/
def all : List NodeType := [.location, .character, .event, .sublocation]

/-- The name of a kind of node. -/
def name : NodeType → String
  | .location => "location"
  | .character => "character"
  | .event => "event"
  | .sublocation => "sublocation"

/-- The name that a new node of a kind goes by. -/
def defaultName : NodeType → String
  | .location => "New Location"
  | .character => "New Character"
  | .event => "New Event"
  | .sublocation => "New Sublocation"

end NodeType

namespace EdgeType

/-- All kinds of edges. -/
def all : List EdgeType := [.spawn, .adjacent, .knows]

/-- The name of a kind of edge. -/
def name : EdgeType → String
  | .spawn => "spawn"
  | .adjacent => "adjacent"
  | .knows => "knows"

end EdgeType

namespace IdKind

/-- What identities of a kind begin with. -/
def stem : IdKind → String
  | .node .location => "loc"
  | .node .character => "char"
  | .node .event => "event"
  | .node .sublocation => "subloc"
  | .edge => "edge"

/-- The range of ordinals of a kind. -/
def scope : IdKind → IdScope
  | .node _ => .node
  | .edge => .edge

end IdKind

namespace ElementId

/-- The greatest ordinal, which has sixty-four bits. -/
def maxOrdinal : Nat := 0xFFFFFFFFFFFFFFFF

/-- The identity with a given ordinal. -/
def numbered (kind : IdKind) (ordinal : Nat) : ElementId :=
  ⟨kind.stem ++ "_" ++ String.ofList (Decimal.digitsOf ordinal)⟩

/-- The range of ordinals that an identity belongs to. -/
def scope (id : ElementId) : IdScope :=
  if (Text.afterStart? ['e', 'd', 'g', 'e', '_'] id.text.toList).isSome then .edge else .node

/-- The ordinal of an identity: what follows its last underscore, if that is a counter and something
comes before it. -/
def ordinal (id : ElementId) : Option Nat :=
  match Text.splitAtLast? '_' id.text.toList with
  | some (_ :: _, digits) => Text.counter? maxOrdinal digits
  | _ => none

end ElementId

end StoryWorld
