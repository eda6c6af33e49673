import StoryWorld.Decimal.Shortest

/-!
# Written forms of doubles

A double is written with the digits of its shortest decimal. A form says between which decimal
exponents these are written positionally, with a point and at least one digit on either side of it;
outside that range they are written as one digit, a point with the further digits if there are any,
and the exponent. A form also says which of two equally near shortest decimals is written.

Two forms are in use: `Form.json` for JSON texts and `Form.plain` for the tables shown to a reader.
-/

set_option autoImplicit false

namespace StoryWorld.Decimal

/-- How doubles are written. -/
structure Form where
  /-- The least decimal exponent written positionally. -/
  least : Int
  /-- The least decimal exponent above `least` that is not written positionally. -/
  bound : Int
  /-- Whether a positive exponent has a sign. -/
  signed : Bool
  /-- Which of two equally near shortest decimals is written. -/
  tie : Tie

/-- In JSON texts numbers from `0.00001` on and below `10 ^ 16` are positional, exponents are
signed, and a tie goes to the even digit. -/
def Form.json : Form := ⟨-5, 16, true, .even⟩

/-- In tables numbers from `0.0001` on and below `10 ^ 16` are positional, only negative exponents
have a sign, and a tie goes up. -/
def Form.plain : Form := ⟨-4, 16, false, .up⟩

/-- The digits of a natural number in base ten. -/
def digitsOf (n : Nat) : List Char := Nat.toDigits 10 n

/-- Digits with the point after the place of exponent zero. -/
def positional (digits : List Char) (leading : Int) : List Char :=
  if leading < 0 then
    ['0', '.'] ++ List.replicate (-leading - 1).toNat '0' ++ digits
  else
    let whole := leading.toNat + 1
    if digits.length ≤ whole then
      digits ++ List.replicate (whole - digits.length) '0' ++ ['.', '0']
    else digits.take whole ++ ['.'] ++ digits.drop whole

/-- An exponent with its sign. -/
def exponentText (signed : Bool) (exponent : Int) : List Char :=
  if exponent < 0 then '-' :: digitsOf exponent.natAbs
  else if signed then '+' :: digitsOf exponent.natAbs
  else digitsOf exponent.natAbs

/-- Digits with the point after the first one, and the exponent. -/
def scientific (signed : Bool) (digits : List Char) (leading : Int) : List Char :=
  let mantissa :=
    match digits with
    | first :: second :: rest => first :: '.' :: second :: rest
    | few => few
  mantissa ++ 'e' :: exponentText signed leading

/-- The magnitude of a finite double. -/
def Form.magnitude (form : Form) (x : Float) : List Char :=
  if x == 0 then ['0', '.', '0']
  else
    let decimal := shortest form.tie x
    let digits := digitsOf decimal.digits
    let leading := decimal.exponent + digits.length - 1
    if form.least ≤ leading ∧ leading < form.bound then positional digits leading
    else scientific form.signed digits leading

/-- The bit of a double that holds its sign; the others lie below it. -/
def signBit : Nat := 0x8000000000000000

/-- Whether the sign bit of a double is set. -/
def isNegative (x : Float) : Bool := decide (signBit ≤ x.toBits.toNat)

/-- The text of a double. -/
def Form.render (form : Form) (x : Float) : List Char :=
  if x.isNaN then ['N', 'a', 'N']
  else
    let magnitude := if x.isFinite then form.magnitude x else ['i', 'n', 'f']
    if isNegative x then '-' :: magnitude else magnitude

end StoryWorld.Decimal
