import StoryWorld.Text.Split
import StoryWorld.Toml.Basic
import StoryWorld.Toml.Token

/-!
# Numbers, dates and times in TOML texts

Integers have sixty-four bits; other numbers are the doubles nearest to what is written. Of dates
and times no more is kept than that they are well formed.
-/

set_option autoImplicit false

namespace StoryWorld.Toml

/-! ## Numbers -/

/-- Digits with single underscores between them. -/
def digits? (isDigit : Char → Bool) : Read (List Char)
  | [] => none
  | c :: text =>
    if isDigit c then
      match text with
      | '_' :: rest => (digits? isDigit rest).map fun (digits, rest) => (c :: digits, rest)
      | rest =>
        match digits? isDigit rest with
        | some (digits, rest) => some (c :: digits, rest)
        | none => some ([c], rest)
    else none

/-- The least and the greatest integer, as far from zero as there are. -/
def integerBound : Nat := 0x8000000000000000

/-- An integer, if it is not too far from zero. -/
def boundedInteger? (negative : Bool) (n : Nat) : Option Toml :=
  if negative then if n ≤ integerBound then some (.integer (-n)) else none
  else if n < integerBound then some (.integer n) else none

/-- The number that digits write in a base. -/
def valueInBase (base : Nat) (digits : List Char) : Nat :=
  digits.foldl (fun value c => value * base + (Text.hexValue? c).getD 0) 0

/-- The double nearest to `digits · 10 ^ exponent`. Exponents far outside the range of doubles need
no exact power. -/
def nearestDouble (digits : List Char) (exponent : Int) : Float :=
  let significand := Text.decimalValue digits
  let magnitude := exponent + (digits.dropWhile (· == '0')).length
  if significand = 0 then 0
  else if 400 < magnitude then 1 / 0
  else if magnitude < -400 then 0
  else Float.ofScientific significand (decide (exponent < 0)) exponent.natAbs

/-- The exponent of a number, if one follows. -/
def exponent? : Read (Option Int)
  | c :: text =>
    if c = 'e' ∨ c = 'E' then
      let (negative, text) :=
        match text with
        | '+' :: text => (false, text)
        | '-' :: text => (true, text)
        | text => (false, text)
      (digits? Char.isDigit text).map fun (digits, rest) =>
        let value : Int := Text.decimalValue digits
        (some (if negative then -value else value), rest)
    else some (none, c :: text)
  | [] => some (none, [])

/-- The digits after the point of a number, if it has one. -/
def fraction? : Read (Option (List Char))
  | '.' :: text => (digits? Char.isDigit text).map fun (digits, rest) => (some digits, rest)
  | text => some (none, text)

/-- A number in base ten without its sign. A number that is too large for a double is refused unless
it is negative. -/
def decimal? (negative : Bool) : Read Toml := fun text => do
  let (whole, rest) ← digits? Char.isDigit text
  if 1 < whole.length ∧ whole.head? = some '0' then none
  let (fraction, rest) ← fraction? rest
  let (exponent, rest) ← exponent? rest
  match fraction, exponent with
  | none, none => return (← boundedInteger? negative (Text.decimalValue whole), rest)
  | _, _ =>
    let places := fraction.getD []
    let x := nearestDouble (whole ++ places) (exponent.getD 0 - places.length)
    let signed := if negative then -x else x
    if signed.isInf ∧ negative = false then none else return (.float signed, rest)

/-- An infinity, something that is no number, or a number in base ten, without its sign. -/
def unsigned? (negative : Bool) : Read Toml
  | 'i' :: 'n' :: 'f' :: rest => some (.float (if negative then -1 / 0 else 1 / 0), rest)
  | 'n' :: 'a' :: 'n' :: rest => some (.float (0 / 0), rest)
  | text => decimal? negative text

/-- An integer in another base after its mark. -/
def inBase? (base : Nat) (isDigit : Char → Bool) : Read Toml := fun text => do
  let (digits, rest) ← digits? isDigit text
  return (← boundedInteger? false (valueInBase base digits), rest)

/-- A number. -/
def number? : Read Toml
  | '+' :: text => unsigned? false text
  | '-' :: text => unsigned? true text
  | '0' :: 'x' :: text => inBase? 16 (fun c => (Text.hexValue? c).isSome) text
  | '0' :: 'o' :: text => inBase? 8 (fun c => decide ('0' ≤ c ∧ c ≤ '7')) text
  | '0' :: 'b' :: text => inBase? 2 (fun c => c == '0' || c == '1') text
  | text => unsigned? false text

/-! ## Dates and times -/

/-- A number of exactly so many digits within bounds. -/
def fixed? (count low high : Nat) : Read Nat := fun text =>
  let digits := text.take count
  let value := Text.decimalValue digits
  if digits.length = count ∧ digits.all Char.isDigit = true ∧ low ≤ value ∧ value ≤ high then
    some (value, text.drop count)
  else none

/-- The number of days of a month. -/
def monthDays (year month : Nat) : Nat :=
  if month = 2 then
    if year % 4 = 0 ∧ (year % 100 ≠ 0 ∨ year % 400 = 0) then 29 else 28
  else if month = 4 ∨ month = 6 ∨ month = 9 ∨ month = 11 then 30
  else 31

/-- The text after a date. -/
def afterDate? (text : List Char) : Option (List Char) := do
  let (year, text) ← fixed? 4 0 9999 text
  let text ← Text.afterStart? ['-'] text
  let (month, text) ← fixed? 2 1 12 text
  let text ← Text.afterStart? ['-'] text
  let (_, text) ← fixed? 2 1 (monthDays year month) text
  return text

/-- The text after a fraction of a second, if there is one. -/
def afterSecondFraction? : List Char → Option (List Char)
  | '.' :: text =>
    if (text.takeWhile Char.isDigit).isEmpty then none else some (text.dropWhile Char.isDigit)
  | text => some text

/-- The text after a time. -/
def afterTime? (text : List Char) : Option (List Char) := do
  let (_, text) ← fixed? 2 0 23 text
  let text ← Text.afterStart? [':'] text
  let (_, text) ← fixed? 2 0 59 text
  let text ← Text.afterStart? [':'] text
  let (_, text) ← fixed? 2 0 60 text
  afterSecondFraction? text

/-- The text after the offset of a time, if there is one. -/
def afterOffset? : List Char → Option (List Char)
  | 'Z' :: text | 'z' :: text => some text
  | sign :: text =>
    if sign = '+' ∨ sign = '-' then do
      let (_, text) ← fixed? 2 0 23 text
      let text ← Text.afterStart? [':'] text
      let (_, text) ← fixed? 2 0 59 text
      return text
    else some (sign :: text)
  | [] => some []

/-- The text after a date and, if one follows, a time. After a blank there need not be a time. -/
def afterMoment? (text : List Char) : Option (List Char) := do
  let rest ← afterDate? text
  match rest with
  | 'T' :: time | 't' :: time => afterOffset? (← afterTime? time)
  | ' ' :: c :: time => if c.isDigit then afterOffset? (← afterTime? (c :: time)) else return rest
  | _ => return rest

/-- Whether a text starts with so many digits and then the given mark. -/
def startsWithDigits (count : Nat) (mark : Char) (text : List Char) : Bool :=
  (text.take count).length == count && (text.take count).all Char.isDigit &&
    (text.drop count).head? == some mark

/-- A date, a time, or a number. -/
def momentOrNumber? : Read Toml := fun text =>
  if startsWithDigits 4 '-' text then (afterMoment? text).map fun rest => (.moment, rest)
  else if startsWithDigits 2 ':' text then (afterTime? text).map fun rest => (.moment, rest)
  else number? text

end StoryWorld.Toml
