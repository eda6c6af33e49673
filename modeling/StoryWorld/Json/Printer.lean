import StoryWorld.Decimal.Form
import StoryWorld.Json.Basic

/-!
# JSON texts of values

Two texts of a value: `compact` has no blanks, `pretty` puts every item on a line of its own,
indented by two spaces a level, and leaves empty arrays and objects as they are. Only the double
quote, the backslash and the controls below U+0020 are escaped.
-/

set_option autoImplicit false

namespace StoryWorld.Json

/-- A digit below sixteen in lowercase hexadecimal. -/
def hexDigit (n : Nat) : Char := Nat.digitChar n

/-- How a character is written in a string. -/
def escapeChar (c : Char) : List Char :=
  if c = '"' then ['\\', '"']
  else if c = '\\' then ['\\', '\\']
  else if c = '\n' then ['\\', 'n']
  else if c = '\r' then ['\\', 'r']
  else if c = '\t' then ['\\', 't']
  else if c = '\x08' then ['\\', 'b']
  else if c = '\x0c' then ['\\', 'f']
  else if c.toNat < 32 then
    ['\\', 'u', '0', '0', hexDigit (c.toNat / 16), hexDigit (c.toNat % 16)]
  else [c]

/-- A string between its quotes. -/
def stringText (text : String) : String :=
  String.ofList ('"' :: text.toList.flatMap escapeChar ++ ['"'])

/-- The text of a double. -/
def doubleText (x : Float) : String := String.ofList (Decimal.Form.json.render x)

/-- The text of an integer. -/
def integerText : Int → String
  | .ofNat n => String.ofList (Decimal.digitsOf n)
  | .negSucc n => String.ofList ('-' :: Decimal.digitsOf (n + 1))

/-- An opening brace. -/
def openBrace : String := "\x7b"

/-- A closing brace. -/
def closeBrace : String := "\x7d"

mutual
/-- The text of a value without blanks. -/
def compact : Json → String
  | .null => "null"
  | .boolean true => "true"
  | .boolean false => "false"
  | .integer n => integerText n
  | .double x _ => doubleText x
  | .string text => stringText text
  | .array items => "[" ++ ",".intercalate (compactItems items) ++ "]"
  | .object members => openBrace ++ ",".intercalate (compactMembers members) ++ closeBrace

/-- The texts of the items of an array. -/
def compactItems : List Json → List String
  | [] => []
  | item :: rest => compact item :: compactItems rest

/-- The texts of the members of an object. -/
def compactMembers : List (String × Json) → List String
  | [] => []
  | (key, value) :: rest => (stringText key ++ ":" ++ compact value) :: compactMembers rest
end

/-- A line break and the blanks of an indentation level. -/
def newLine (level : Nat) : String := "\n" ++ String.ofList (List.replicate (2 * level) ' ')

/-- Texts on lines of their own between two brackets. -/
def block (opening closing : String) (level : Nat) : List String → String
  | [] => opening ++ closing
  | texts =>
    opening ++ newLine (level + 1) ++ ("," ++ newLine (level + 1)).intercalate texts ++
      newLine level ++ closing

mutual
/-- The indented text of a value at an indentation level. -/
def prettyAt (level : Nat) : Json → String
  | .null => "null"
  | .boolean true => "true"
  | .boolean false => "false"
  | .integer n => integerText n
  | .double x _ => doubleText x
  | .string text => stringText text
  | .array items => block "[" "]" level (prettyItems (level + 1) items)
  | .object members => block openBrace closeBrace level (prettyMembers (level + 1) members)

/-- The indented texts of the items of an array. -/
def prettyItems (level : Nat) : List Json → List String
  | [] => []
  | item :: rest => prettyAt level item :: prettyItems level rest

/-- The indented texts of the members of an object. -/
def prettyMembers (level : Nat) : List (String × Json) → List String
  | [] => []
  | (key, value) :: rest =>
    (stringText key ++ ": " ++ prettyAt level value) :: prettyMembers level rest
end

/-- The indented text of a value. -/
def pretty (value : Json) : String := prettyAt 0 value

end StoryWorld.Json
