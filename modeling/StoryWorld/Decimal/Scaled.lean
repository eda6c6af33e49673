/-!
# Doubles from a significand and a power of ten

A number written with digits and an exponent is read in two steps. The digits give a significand,
which is rounded to a double; this is then multiplied or divided by a power of ten, itself a
double. Beyond `10 ^ 308` there is no such double: a significand that has to grow further gives no
number, and one that has to shrink further is divided by `10 ^ 308` first.
-/

set_option autoImplicit false

namespace StoryWorld.Decimal

/-- The greatest exponent of a power of ten that is a double. -/
def maxPower : Nat := 308

/-- The double nearest to a power of ten. -/
def power (exponent : Nat) : Float := Float.ofScientific 1 false exponent

/-- A double divided by a power of ten, step by step. -/
def shrunk (x : Float) (exponent : Nat) : Float :=
  if exponent ≤ maxPower then x / power exponent
  else if x == 0 then x
  else shrunk (x / power maxPower) (exponent - maxPower)
termination_by exponent
decreasing_by
  simp only [maxPower] at *
  omega

/-- A double multiplied by a power of ten; none if it grows beyond all doubles. -/
def grown? (x : Float) (exponent : Nat) : Option Float :=
  if exponent ≤ maxPower then
    let product := x * power exponent
    if product.isInf then none else some product
  else if x == 0 then some x
  else none

/-- The double read for `significand · 10 ^ exponent`; none if it is beyond all doubles. -/
def scaled? (significand : Nat) (exponent : Int) : Option Float :=
  let start := Float.ofNat significand
  if exponent < 0 then some (shrunk start exponent.natAbs) else grown? start exponent.natAbs

end StoryWorld.Decimal
