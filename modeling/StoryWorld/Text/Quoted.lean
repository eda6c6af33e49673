import StoryWorld.Text.InvisibleTable
import StoryWorld.Text.Range

/-!
# Quoted texts

A quoted text stands between double quotes. Inside, a double quote and a backslash follow a
backslash, the four characters NUL, tab, line feed and carriage return have a letter each, and any
other character without a visible shape is written by its code point in hexadecimal. An apostrophe
is written as itself.
-/

set_option autoImplicit false

namespace StoryWorld.Text

/-- Whether a character is shown as itself in a quoted text. -/
def isVisible (c : Char) : Bool :=
  !inRanges invisibleRanges c.toNat

/-- The escape with the code point of a character in lowercase hexadecimal. -/
def codePointEscape (c : Char) : List Char :=
  ['\\', 'u', '\x7b'] ++ Nat.toDigits 16 c.toNat ++ ['\x7d']

/-- How a character is written between the quotes. -/
def quoteChar (c : Char) : List Char :=
  if c = '"' then ['\\', '"']
  else if c = '\\' then ['\\', '\\']
  else if c = '\n' then ['\\', 'n']
  else if c = '\r' then ['\\', 'r']
  else if c = '\t' then ['\\', 't']
  else if c = '\x00' then ['\\', '0']
  else if isVisible c then [c]
  else codePointEscape c

/-- A text in double quotes. -/
def quoted (text : String) : String :=
  String.ofList ('"' :: text.toList.flatMap quoteChar ++ ['"'])

/-- A text between grave accents, as names are shown in messages. -/
def ticked (text : String) : String :=
  String.singleton (Char.ofNat 96) ++ text ++ String.singleton (Char.ofNat 96)

end StoryWorld.Text
