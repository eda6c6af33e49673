import StoryWorld.Text.Digits

/-!
# Tokens of TOML texts

Blanks, comments, line ends, strings and keys.

The functions of this module take a text and give what they have read at its start together with
the rest; they give nothing if there is no such thing at the start.
-/

set_option autoImplicit false

namespace StoryWorld.Toml

/-- What has been read at the start of a text, and the rest. -/
abbrev Read (α : Type) := List Char → Option (α × List Char)

/-! ## Blanks, comments and line ends -/

/-- Whether a character is a blank within a line. -/
def isSpace (c : Char) : Bool := c == ' ' || c == '\t'

/-- The text after blanks within a line. -/
def skip (text : List Char) : List Char := text.dropWhile isSpace

/-- Whether a character is neither a control nor U+007F; the tab counts as none. -/
def isPrintable (c : Char) : Bool := c == '\t' || (decide (32 ≤ c.toNat) && c != '\x7f')

/-- The text after a comment, if one starts here. -/
def skipComment : List Char → List Char
  | '#' :: text => text.dropWhile isPrintable
  | text => text

/-- The text after a line end. -/
def afterNewline? : List Char → Option (List Char)
  | '\n' :: text => some text
  | '\r' :: '\n' :: text => some text
  | _ => none

/-- The text after blanks, a comment, and the end of the line or of the text. -/
def afterLine? (text : List Char) : Option (List Char) :=
  match skipComment (skip text) with
  | [] => some []
  | rest => afterNewline? rest

/-- The text after blanks and line ends. -/
def skipBlankLines : List Char → List Char
  | [] => []
  | '\r' :: '\n' :: text => skipBlankLines text
  | c :: text => if isSpace c || c == '\n' then skipBlankLines text else c :: text

/-- The text after blanks, comments and line ends. -/
def skipLines : (fuel : Nat) → List Char → List Char
  | 0, text => text
  | fuel + 1, text =>
    let rest := skipComment (skip text)
    match afterNewline? rest with
    | some rest => skipLines fuel rest
    | none => rest

/-! ## Strings -/

/-- The character of a code point written in hexadecimal. -/
def codePoint? (digits : List Char) : Option Char := do
  let code ← Text.hexNumber? digits
  if code < 0xD800 ∨ (0xE000 ≤ code ∧ code < 0x110000) then some (Char.ofNat code) else none

/-- The character of an escape after its backslash. -/
def escape? : Read Char
  | 'b' :: text => some ('\x08', text)
  | 't' :: text => some ('\t', text)
  | 'n' :: text => some ('\n', text)
  | 'f' :: text => some ('\x0c', text)
  | 'r' :: text => some ('\r', text)
  | '"' :: text => some ('"', text)
  | '\\' :: text => some ('\\', text)
  | 'u' :: text =>
    if text.length < 4 then none
    else (codePoint? (text.take 4)).map fun c => (c, text.drop 4)
  | 'U' :: text =>
    if text.length < 8 then none
    else (codePoint? (text.take 8)).map fun c => (c, text.drop 8)
  | _ => none

/-- The rest of a string on one line after its opening quote. -/
def basicRest? : (fuel : Nat) → Read (List Char)
  | 0, _ => none
  | _ + 1, [] => none
  | fuel + 1, c :: text =>
    if c = '"' then some ([], text)
    else if c = '\\' then do
      let (c, text) ← escape? text
      let (chars, text) ← basicRest? fuel text
      return (c :: chars, text)
    else if isPrintable c then do
      let (chars, text) ← basicRest? fuel text
      return (c :: chars, text)
    else none

/-- The rest of a verbatim string on one line after its opening apostrophe. -/
def literalRest? : Read (List Char)
  | [] => none
  | c :: text =>
    if c = '\'' then some ([], text)
    else if isPrintable c then do
      let (chars, text) ← literalRest? text
      return (c :: chars, text)
    else none

/-- The marks of a string over several lines at the start of a text. Three to five end the string,
and those over three belong to it; one or two belong to it and do not end it. -/
def closingMarks (mark : Char) (text : List Char) : Nat × Bool :=
  let count := (text.takeWhile (· == mark)).length
  if count < 3 then (count, false) else (min count 5 - 3, true)

/-- The rest of a string over several lines after its opening marks. In a string that is not
verbatim a backslash at the end of a line joins it with the next line that is not blank. -/
def linesRest? (mark : Char) (verbatim : Bool) : (fuel : Nat) → Read (List Char)
  | 0, _ => none
  | _ + 1, [] => none
  | fuel + 1, c :: text =>
    if c = mark then
      let (kept, ends) := closingMarks mark (c :: text)
      let marks := List.replicate kept mark
      if ends then some (marks, (c :: text).drop (kept + 3))
      else do
        let (chars, text) ← linesRest? mark verbatim fuel ((c :: text).drop kept)
        return (marks ++ chars, text)
    else if c = '\\' ∧ verbatim = false then
      match afterNewline? (skip text) with
      | some rest => linesRest? mark verbatim fuel (skipBlankLines rest)
      | none => do
        let (c, text) ← escape? text
        let (chars, text) ← linesRest? mark verbatim fuel text
        return (c :: chars, text)
    else
      match afterNewline? (c :: text) with
      | some rest => do
        let (chars, text) ← linesRest? mark verbatim fuel rest
        return ('\n' :: chars, text)
      | none =>
        if isPrintable c then do
          let (chars, text) ← linesRest? mark verbatim fuel text
          return (c :: chars, text)
        else none

/-- A string over several lines after its opening marks; a line end right after them does not
count. -/
def lines? (mark : Char) (verbatim : Bool) : Read (List Char) := fun text =>
  let text := (afterNewline? text).getD text
  linesRest? mark verbatim (text.length + 1) text

/-- A string on one line. -/
def line? : Read (List Char)
  | '"' :: text => basicRest? (text.length + 1) text
  | '\'' :: text => literalRest? text
  | _ => none

/-- A string of any kind. -/
def string? : Read (List Char)
  | '"' :: '"' :: '"' :: text => lines? '"' false text
  | '\'' :: '\'' :: '\'' :: text => lines? '\'' true text
  | text => line? text

/-! ## Keys -/

/-- Whether a character may stand in a key without quotes. -/
def isBare (c : Char) : Bool := c.isAlphanum || c == '_' || c == '-'

/-- A part of a key, with or without quotes. -/
def keyPart? (text : List Char) : Option (String × List Char) :=
  match text with
  | '"' :: _ | '\'' :: _ => (line? text).map fun (chars, rest) => (String.ofList chars, rest)
  | _ =>
    let bare := text.takeWhile isBare
    if bare.isEmpty then none else some (String.ofList bare, text.dropWhile isBare)

/-- How many parts a key may not have. -/
def keyLimit : Nat := 80

/-- The parts of a key with points between them; blanks may stand around each part. -/
def keyParts? : (fuel : Nat) → Read (List String)
  | 0, _ => none
  | fuel + 1, text => do
    let (part, rest) ← keyPart? (skip text)
    match skip rest with
    | '.' :: rest =>
      let (parts, rest) ← keyParts? fuel rest
      return (part :: parts, rest)
    | rest => return ([part], rest)

/-- A key: the path to its table, and its last part. -/
def key? (text : List Char) : Option ((List String × String) × List Char) := do
  let (parts, rest) ← keyParts? (keyLimit - 1) text
  return ((parts.dropLast, ← parts.getLast?), rest)

end StoryWorld.Toml
