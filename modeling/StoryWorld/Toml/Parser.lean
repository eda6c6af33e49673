import StoryWorld.Toml.Scalar

/-!
# TOML texts

Reads a TOML document. A document is a sequence of lines: a key with its value, the header of a
table, or nothing, each with a comment if need be. Values may be nested, but not without bound, and
no key may be defined twice.
-/

set_option autoImplicit false

namespace StoryWorld.Toml

/-! ## Values -/

/-- How deep arrays and inline tables may be nested. -/
def maxDepth : Nat := 79

mutual
/-- A value. The first argument bounds the recursion, the second one the nesting. -/
def value? : (fuel depth : Nat) → Read Toml
  | 0, _, _ => none
  | _ + 1, _, [] => none
  | fuel + 1, depth, c :: text =>
    match c with
    | '"' | '\'' =>
      (string? (c :: text)).map fun (chars, rest) => (.string (String.ofList chars), rest)
    | '[' =>
      match depth with
      | 0 => none
      | depth + 1 => (items? fuel depth text).map fun (items, rest) => (.array items, rest)
    | '\x7b' =>
      match depth with
      | 0 => none
      | depth + 1 =>
        match skip text with
        | '\x7d' :: rest => some (.table .inline [], rest)
        | rest =>
          (members? fuel depth [] rest).map fun (entries, rest) => (.table .inline entries, rest)
    | 't' => (Text.afterStart? ['r', 'u', 'e'] text).map fun rest => (.boolean true, rest)
    | 'f' => (Text.afterStart? ['a', 'l', 's', 'e'] text).map fun rest => (.boolean false, rest)
    | c => momentOrNumber? (c :: text)

/-- The items of an array up to its closing bracket; a comma may stand after the last one. -/
def items? : (fuel depth : Nat) → Read (List Toml)
  | 0, _, _ => none
  | fuel + 1, depth, text =>
    match skipLines (text.length + 1) text with
    | ']' :: rest => some ([], rest)
    | text => do
      let (item, rest) ← value? fuel depth text
      match skipLines (rest.length + 1) rest with
      | ',' :: rest =>
        let (items, rest) ← items? fuel depth rest
        return (item :: items, rest)
      | ']' :: rest => return ([item], rest)
      | _ => none

/-- The entries of an inline table up to its closing brace, after those read before. -/
def members? : (fuel depth : Nat) → Entries → Read Entries
  | 0, _, _, _ => none
  | fuel + 1, depth, entries, text => do
    let ((path, key), rest) ← key? text
    let rest ← Text.afterStart? ['='] rest
    let (value, rest) ← value? fuel depth (skip rest)
    let entries ← define path key value entries
    match skip rest with
    | ',' :: rest => members? fuel depth entries rest
    | '\x7d' :: rest => return (entries, rest)
    | _ => none
end

/-! ## Documents -/

/-- A document that has been read in part: the path of the last header, and the entries. -/
structure Progress where
  header : List String
  entries : Entries

/-- Reads a header or a key with its value, at the start of a text and up to the end of its line. -/
def statement? (progress : Progress) : Read Progress
  | '[' :: '[' :: text => do
    let ((path, key), rest) ← key? text
    let rest ← Text.afterStart? [']', ']'] rest
    let entries ← openItem path key progress.entries
    return (⟨path ++ [key], entries⟩, ← afterLine? rest)
  | '[' :: text => do
    let ((path, key), rest) ← key? text
    let rest ← Text.afterStart? [']'] rest
    let entries ← openTable path key progress.entries
    return (⟨path ++ [key], entries⟩, ← afterLine? rest)
  | text => do
    let ((path, key), rest) ← key? text
    let rest ← Text.afterStart? ['='] rest
    let (value, rest) ← value? (2 * rest.length + 2) maxDepth (skip rest)
    let entries ← defineIn progress.header path key value progress.entries
    return ({ progress with entries := entries }, ← afterLine? rest)

/-- Reads the rest of a document line by line. -/
def statements? : (fuel : Nat) → Progress → List Char → Option Entries
  | 0, _, _ => none
  | fuel + 1, progress, text =>
    match skipComment (skip text) with
    | [] => some progress.entries
    | rest =>
      match afterNewline? rest with
      | some rest => statements? fuel progress rest
      | none => do
        let (progress, rest) ← statement? progress rest
        statements? fuel progress rest

/-- Reads a document. A mark of the order of bytes at its start does not count. -/
def parse (text : String) : Option Toml :=
  let chars :=
    match text.toList with
    | '\uFEFF' :: chars => chars
    | chars => chars
  (statements? (chars.length + 1) ⟨[], []⟩ chars).map (.table .headed)

end StoryWorld.Toml
