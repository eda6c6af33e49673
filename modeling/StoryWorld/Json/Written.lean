import StoryWorld.Decimal.Scaled
import StoryWorld.Json.Basic
import StoryWorld.Text.Digits
import StoryWorld.Text.Split

/-!
# JSON texts as they are written

`Written.parse` turns a text into a tree that keeps what a value leaves out: keys that are
repeated, numbers beyond all doubles, strings with half a surrogate pair, and any depth of nesting.
`Written.value?` then takes a tree that is no deeper than allowed and has no such number or string
to its value; of a repeated key the last value counts, at the place of the first.

`Json.parse` is the two together. A reader that skips parts of a text works on the tree instead.
-/

set_option autoImplicit false

namespace StoryWorld.Json

/-- A JSON text as a tree. -/
inductive Written where
  | null
  | boolean (value : Bool)
  /-- A number, without value if it is beyond all doubles. -/
  | number (value : Option Json)
  /-- A string, without text if it holds half a surrogate pair. -/
  | string (text : Option String)
  | array (items : List Written)
  | object (members : List (Option String × Written))

namespace Written

instance : Inhabited Written := ⟨.null⟩

/-! ## Blanks and strings -/

/-- Whether a character may stand between the tokens of a text. -/
def isSpace (c : Char) : Bool := c == ' ' || c == '\n' || c == '\t' || c == '\r'

/-- The text from the next token on. -/
def skip (text : List Char) : List Char := text.dropWhile isSpace

/-- The UTF-16 unit that four hexadecimal digits write. -/
def hexUnit? (a b c d : Char) : Option Nat := Text.hexNumber? [a, b, c, d]

/-- Whether a UTF-16 unit is the first half of a surrogate pair. -/
def isHighSurrogate (unit : Nat) : Bool := decide (0xD800 ≤ unit ∧ unit < 0xDC00)

/-- Whether a UTF-16 unit is the second half of a surrogate pair. -/
def isLowSurrogate (unit : Nat) : Bool := decide (0xDC00 ≤ unit ∧ unit < 0xE000)

/-- The character that a letter after a backslash stands for. -/
def simpleEscape? (c : Char) : Option Char :=
  match c with
  | '"' => some '"'
  | '\\' => some '\\'
  | '/' => some '/'
  | 'b' => some '\x08'
  | 'f' => some '\x0c'
  | 'n' => some '\n'
  | 'r' => some '\r'
  | 't' => some '\t'
  | _ => none

/-- The rest of a string after its opening quote, and the text after the closing one. `taken` holds
the characters read so far in reverse, and nothing once half a surrogate pair has been met. `high`
is a first half that waits for its second. -/
def stringRest (taken : Option (List Char)) (high : Option Nat) :
    List Char → Option (Option String × List Char)
  | [] => none
  | '"' :: rest =>
    let taken := if high.isSome then none else taken
    some (taken.map fun chars => String.ofList chars.reverse, rest)
  | '\\' :: 'u' :: a :: b :: c :: d :: rest =>
    match hexUnit? a b c d with
    | none => none
    | some unit =>
      match high with
      | some first =>
        if isLowSurrogate unit then
          let code := 0x10000 + (first - 0xD800) * 0x400 + (unit - 0xDC00)
          stringRest (taken.map (Char.ofNat code :: ·)) none rest
        else if isHighSurrogate unit then stringRest none (some unit) rest
        else stringRest none none rest
      | none =>
        if isHighSurrogate unit then stringRest taken (some unit) rest
        else if isLowSurrogate unit then stringRest none none rest
        else stringRest (taken.map (Char.ofNat unit :: ·)) none rest
  | '\\' :: c :: rest =>
    match simpleEscape? c with
    | none => none
    | some meant => stringRest (if high.isSome then none else taken.map (meant :: ·)) none rest
  | c :: rest =>
    if c = '\\' ∨ c.toNat < 32 then none
    else stringRest (if high.isSome then none else taken.map (c :: ·)) none rest

/-! ## Numbers -/

/-- The greatest significand that is kept, which is also the greatest integer. -/
def maxSignificand : Nat := 0xFFFFFFFFFFFFFFFF

/-- A significand and how many digits it has taken; no digit is taken that would make it too large,
and none after that. -/
def takeDigits (significand taken : Nat) : List Char → Nat × Nat
  | [] => (significand, taken)
  | c :: rest =>
    let next := significand * 10 + Text.digitValue c
    if next ≤ maxSignificand then takeDigits next (taken + 1) rest else (significand, taken)

/-- A double as a value, with its sign. -/
def signedDouble? (negative : Bool) (magnitude : Option Float) : Option Json := do
  let x ← magnitude
  let signed := if negative then -x else x
  if finite : signed.isFinite = true then some (.double signed finite) else none

/-- The value of a number with a fraction or an exponent, or one that is too large for an integer.
Digits of the fraction count even after digits of the whole part had to be left out, if there is
room for them. -/
def doubleValue? (negative : Bool) (whole fraction : List Char) (exponent : Int) : Option Json :=
  let (significand, taken) := takeDigits 0 0 whole
  let dropped := whole.length - taken
  let (significand, places) := takeDigits significand 0 fraction
  signedDouble? negative (Decimal.scaled? significand ((dropped : Int) - places + exponent))

/-- How far below zero integers go. -/
def maxNegative : Nat := 0x8000000000000000

/-- The value of a number without fraction and exponent. -/
def integerValue? (negative : Bool) (whole : List Char) : Option Json :=
  let n := Text.decimalValue whole
  if maxSignificand < n then doubleValue? negative whole [] 0
  else if !negative then some (.integer n)
  else if n = 0 ∨ maxNegative < n then signedDouble? true (some (Float.ofNat n))
  else some (.integer (-n))

/-- The exponent of a number, if one follows, and the rest of the text. -/
def exponent? : List Char → Option (Option Int × List Char)
  | e :: rest =>
    if e = 'e' ∨ e = 'E' then
      let (negative, rest) :=
        match rest with
        | '+' :: rest => (false, rest)
        | '-' :: rest => (true, rest)
        | rest => (false, rest)
      let digits := rest.takeWhile Char.isDigit
      let value : Int := Text.decimalValue digits
      if digits.isEmpty then none
      else some (some (if negative then -value else value), rest.dropWhile Char.isDigit)
    else some (none, e :: rest)
  | [] => some (none, [])

/-- The digits after the point of a number, if one follows, and the rest of the text. -/
def fraction? : List Char → Option (Option (List Char) × List Char)
  | '.' :: rest =>
    let digits := rest.takeWhile Char.isDigit
    if digits.isEmpty then none else some (some digits, rest.dropWhile Char.isDigit)
  | rest => some (none, rest)

/-- A number without its sign, and the rest of the text. -/
def unsigned? (negative : Bool) (text : List Char) : Option (Option Json × List Char) := do
  let whole := text.takeWhile Char.isDigit
  if whole.isEmpty ∨ (whole.length > 1 ∧ whole.head? = some '0') then none
  let (fraction, rest) ← fraction? (text.dropWhile Char.isDigit)
  let (exponent, rest) ← exponent? rest
  match fraction, exponent with
  | none, none => return (integerValue? negative whole, rest)
  | _, _ => return (doubleValue? negative whole (fraction.getD []) (exponent.getD 0), rest)

/-- A number and the rest of the text. -/
def number? : List Char → Option (Option Json × List Char)
  | '-' :: rest => unsigned? true rest
  | text => unsigned? false text

/-! ## Trees -/

mutual
/-- One tree at the start of a text and what follows it. The first argument bounds the recursion. -/
def tree? : Nat → List Char → Option (Written × List Char)
  | 0, _ => none
  | _ + 1, [] => none
  | fuel + 1, c :: text =>
    match c with
    | 'n' => (Text.afterStart? ['u', 'l', 'l'] text).map fun rest => (.null, rest)
    | 't' => (Text.afterStart? ['r', 'u', 'e'] text).map fun rest => (.boolean true, rest)
    | 'f' => (Text.afterStart? ['a', 'l', 's', 'e'] text).map fun rest => (.boolean false, rest)
    | '"' => (stringRest (some []) none text).map fun (value, rest) => (.string value, rest)
    | '[' =>
      match skip text with
      | ']' :: rest => some (.array [], rest)
      | rest => (items? fuel rest).map fun (items, rest) => (.array items, rest)
    | '\x7b' =>
      match skip text with
      | '\x7d' :: rest => some (.object [], rest)
      | rest => (members? fuel rest).map fun (members, rest) => (.object members, rest)
    | c => (number? (c :: text)).map fun (value, rest) => (.number value, rest)

/-- The items of an array up to its closing bracket. -/
def items? : Nat → List Char → Option (List Written × List Char)
  | 0, _ => none
  | fuel + 1, text => do
    let (item, rest) ← tree? fuel text
    match skip rest with
    | ',' :: rest =>
      let (items, rest) ← items? fuel (skip rest)
      return (item :: items, rest)
    | ']' :: rest => return ([item], rest)
    | _ => none

/-- The members of an object up to its closing brace. -/
def members? : Nat → List Char → Option (List (Option String × Written) × List Char)
  | 0, _ => none
  | fuel + 1, '"' :: text => do
    let (key, rest) ← stringRest (some []) none text
    let ':' :: rest := skip rest | none
    let (value, rest) ← tree? fuel (skip rest)
    match skip rest with
    | ',' :: rest =>
      let (members, rest) ← members? fuel (skip rest)
      return ((key, value) :: members, rest)
    | '\x7d' :: rest => return ([(key, value)], rest)
    | _ => none
  | _ + 1, _ => none
end

/-- The tree of a whole text. Every step of the recursion takes at least one character of the text
or follows one that did, so twice the length bounds it. -/
def parse (text : String) : Option Written := do
  let chars := text.toList
  let (tree, rest) ← tree? (2 * chars.length + 2) (skip chars)
  if (skip rest).isEmpty then some tree else none

/-! ## Values -/

/-- How deep arrays and objects may be nested. -/
def maxDepth : Nat := 127

mutual
/-- The value of a tree that is nested no deeper than allowed. -/
def value? : Nat → Written → Option Json
  | _, .null => some .null
  | _, .boolean b => some (.boolean b)
  | _, .number value => value
  | _, .string text => text.map .string
  | 0, .array _ => none
  | depth + 1, .array items => (values? depth items).map .array
  | 0, .object _ => none
  | depth + 1, .object members =>
    (memberValues? depth members).map fun members => .object (Table.ofList members).entries

/-- The values of the items of an array. -/
def values? : Nat → List Written → Option (List Json)
  | _, [] => some []
  | depth, item :: rest => do
    let value ← value? depth item
    return value :: (← values? depth rest)

/-- The keys and values of the members of an object. -/
def memberValues? : Nat → List (Option String × Written) → Option (List (String × Json))
  | _, [] => some []
  | depth, (key, value) :: rest => do
    let key ← key
    let value ← value? depth value
    return (key, value) :: (← memberValues? depth rest)
end

end Written

/-- The value of a JSON text. -/
def parse (text : String) : Option Json := do
  (← Written.parse text).value? Written.maxDepth

end StoryWorld.Json
