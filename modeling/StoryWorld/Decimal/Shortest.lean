/-!
# The shortest decimal of a double

Every finite double is an integer times a power of two, and the reals that round to it form an
interval around it. The shortest decimal of the double is the decimal with the fewest digits in
that interval; of two such decimals it is the nearer one, and of two equally near ones the one that
a `Tie` rule chooses.

The search runs over decimal grids from coarse to fine. If a grid has a point in the interval, then
one of the two neighbours of the double on that grid lies in it, so looking at the neighbours is
enough. All comparisons are between natural numbers.
-/

set_option autoImplicit false

namespace StoryWorld.Decimal

/-- The positive number `mantissa · 2 ^ exponent`, and whether the next smaller double is only half
as far away as the next larger one. -/
structure Binary where
  mantissa : Nat
  exponent : Int
  narrowBelow : Bool

/-- A decimal `digits · 10 ^ exponent`. -/
structure Digits where
  digits : Nat
  exponent : Int
  deriving DecidableEq

/-- Which of two equally near neighbours on a decimal grid is taken. -/
inductive Tie where
  /-- The one whose last digit is even. -/
  | even
  /-- The greater one. -/
  | up
  deriving DecidableEq

/-- Whether a number halfway above `below` goes down to it. -/
def Tie.goesDown (tie : Tie) (below : Nat) : Bool :=
  match tie with
  | .even => decide (below % 2 = 0)
  | .up => false

/-- The mantissa bit that normal doubles do not store; their fraction lies below it. -/
def hiddenBit : Nat := 0x10000000000000

/-- The magnitude of a finite double. -/
def Binary.ofFloat (x : Float) : Binary :=
  let bits : Nat := x.toBits.toNat
  let biased : Nat := bits / hiddenBit % 2048
  let fraction : Nat := bits % hiddenBit
  if biased = 0 then ⟨fraction, -1074, false⟩
  else ⟨hiddenBit + fraction, (biased : Int) - 1075, decide (fraction = 0 ∧ 1 < biased)⟩

/-- A ratio of natural numbers equal to `2 ^ twos / 10 ^ tens`. -/
def powerRatio (twos tens : Int) : Nat × Nat :=
  (Nat.pow 2 twos.toNat * Nat.pow 10 (-tens).toNat,
    Nat.pow 2 (-twos).toNat * Nat.pow 10 tens.toNat)

/-- The exponent `e` with `10 ^ e ≤ value < 10 ^ (e + 1)`, from an estimate that is exact or one too
small. -/
def Binary.decimalExponent (value : Binary) : Int :=
  let estimate := ((value.mantissa.log2 : Int) + value.exponent) * 30103 / 100000
  let ratio := powerRatio value.exponent (estimate + 1)
  if ratio.2 ≤ value.mantissa * ratio.1 then estimate + 1 else estimate

/-- Whether `units · 10 ^ exponent` rounds to the number; the ends of the interval do so
if the mantissa is even. -/
def Binary.admits (value : Binary) (units : Nat) (exponent : Int) : Bool :=
  let ratio := powerRatio (value.exponent - 2) exponent
  let low := (4 * value.mantissa - if value.narrowBelow then 1 else 2) * ratio.1
  let high := (4 * value.mantissa + 2) * ratio.1
  let point := units * ratio.2
  if value.mantissa % 2 = 0 then decide (low ≤ point ∧ point ≤ high)
  else decide (low < point ∧ point < high)

/-- The neighbour of the number on the grid of `10 ^ exponent` that is to be taken, if one of the
two rounds to it. -/
def Binary.onGrid? (tie : Tie) (value : Binary) (exponent : Int) : Option Digits :=
  let ratio := powerRatio value.exponent exponent
  let scaled := value.mantissa * ratio.1
  let below := scaled / ratio.2
  match value.admits below exponent, value.admits (below + 1) exponent with
  | true, false => some ⟨below, exponent⟩
  | false, true => some ⟨below + 1, exponent⟩
  | false, false => none
  | true, true =>
    let twice := 2 * scaled
    let middle := (2 * below + 1) * ratio.2
    if twice < middle ∨ (twice = middle ∧ tie.goesDown below) then some ⟨below, exponent⟩
    else some ⟨below + 1, exponent⟩

/-- The first hit on the grids with one digit, two digits, and so on. -/
def Binary.search (tie : Tie) (value : Binary) (leading : Int) : (places count : Nat) → Digits
  | places, 0 => ⟨0, leading - places⟩
  | places, count + 1 =>
    match value.onGrid? tie (leading - places) with
    | some found => found
    | none => value.search tie leading (places + 1) count

/-- A decimal without zeros at the end of its digits. -/
def Digits.stripped (decimal : Digits) : (steps : Nat) → Digits
  | 0 => decimal
  | steps + 1 =>
    if decimal.digits ≠ 0 ∧ decimal.digits % 10 = 0 then
      Digits.stripped ⟨decimal.digits / 10, decimal.exponent + 1⟩ steps
    else decimal

/-- The shortest decimal of the magnitude of a finite double other than zero. Seventeen digits
always suffice. -/
def shortest (tie : Tie) (x : Float) : Digits :=
  let value := Binary.ofFloat x
  (value.search tie value.decimalExponent 0 17).stripped 17

end StoryWorld.Decimal
