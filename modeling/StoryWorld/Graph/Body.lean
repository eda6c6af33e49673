import StoryWorld.Graph.Identity
import StoryWorld.Text.Blank
import StoryWorld.Text.Split

/-!
# Keyed bodies

The texts of a node carry a key: a body is stored on a line of its own as the key, an equals sign,
and the body between square brackets. The key is the name of the node, and for all events the words
Current event. An empty body is stored as nothing.

`decode` takes the key off again. It allows blanks around the parts, and a body in brackets without
a key; a text of any other shape is its own body.
-/

set_option autoImplicit false

namespace StoryWorld.Body

/-- The key of the texts of events. -/
def eventKey : String := "Current event"

/-- The key of the texts of a node. -/
def key (name : String) : NodeType → String
  | .event => eventKey
  | _ => name

/-- The stored form of a body. -/
def encode (body name : String) (type : NodeType) : String :=
  if body = "" then "" else "\n" ++ key name type ++ "=[" ++ body ++ "]"

/-- What stands between an opening bracket at the start and a closing one at the end, blanks after
the closing one aside. -/
def bracketed? : List Char → Option (List Char)
  | '[' :: text => Text.beforeLast? ']' (Text.trimEnd text)
  | _ => none

/-- What stands in brackets after the key and an equals sign. -/
def keyed? (key text : List Char) : Option (List Char) := do
  let rest ← Text.afterStart? key text
  let rest ← Text.afterStart? ['='] (Text.trimStart rest)
  bracketed? (Text.trimStart rest)

/-- The body in a stored text. -/
def decode (stored name : String) (type : NodeType) : String :=
  let start := Text.trimStart stored.toList
  match (keyed? (key name type).toList start).or (bracketed? start) with
  | some body => String.ofList body
  | none => stored

end StoryWorld.Body
