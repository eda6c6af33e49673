import Mathlib.Data.List.Basic
import Mathlib.Tactic.Ring
import StoryWorld.Decimal.Form
import StoryWorld.Text.Digits

/-!
# Decimal digits

The digits of a natural number are digits, there is at least one, and they are read as the number
again (`decimalValue_digitsOf`). Digits that follow others are read as one number together with
them (`decimalValue_append`).
-/

set_option autoImplicit false

namespace StoryWorld

namespace Decimal

theorem digitsOf_ne_nil (n : Nat) : digitsOf n ≠ [] :=
  Nat.toDigits_ne_nil

theorem isDigit_of_mem_digitsOf {n : Nat} {c : Char} (member : c ∈ digitsOf n) :
    c.isDigit = true :=
  Nat.isDigit_of_mem_toDigits (by decide) (by decide) member

/-- A character that is no digit is not among digits. -/
theorem not_mem_of_isDigit {text : List Char} {mark : Char}
    (digits : ∀ c ∈ text, c.isDigit = true) (other : mark.isDigit = false) : mark ∉ text := by
  intro member
  rw [digits mark member] at other
  cases other

theorem underscore_not_mem_digitsOf (n : Nat) : '_' ∉ digitsOf n :=
  not_mem_of_isDigit (fun _ member => isDigit_of_mem_digitsOf member) (by decide)

/-- Reading digits is evaluating them in base ten. -/
theorem foldl_eq_ofDigitChars (digits : List Char) (start : Nat) :
    digits.foldl (fun value c => value * 10 + Text.digitValue c) start =
      Nat.ofDigitChars 10 digits start := by
  induction digits generalizing start with
  | nil =>
    rw [Nat.ofDigitChars_nil]
    rfl
  | cons c digits ih =>
    rw [Nat.ofDigitChars_cons, List.foldl_cons, ih, Text.digitValue, Nat.mul_comm]

/-- Reading the digits of a number gives the number. -/
theorem decimalValue_digitsOf (n : Nat) : Text.decimalValue (digitsOf n) = n := by
  rw [Text.decimalValue, foldl_eq_ofDigitChars]
  exact Nat.ofDigitChars_ten_toDigits

end Decimal

namespace Text

theorem foldl_digits (digits : List Char) (start : Nat) :
    digits.foldl (fun value c => value * 10 + digitValue c) start =
      start * 10 ^ digits.length + decimalValue digits := by
  unfold decimalValue
  induction digits generalizing start with
  | nil => simp
  | cons c digits ih =>
    rw [List.foldl_cons, List.foldl_cons, ih, ih (0 * 10 + _), List.length_cons]
    ring

/-- Digits in front count for more by the number of digits that follow. -/
theorem decimalValue_append (front back : List Char) :
    decimalValue (front ++ back) = decimalValue front * 10 ^ back.length + decimalValue back := by
  rw [decimalValue, List.foldl_append, foldl_digits]
  rfl

theorem decimalValue_zeros (count : Nat) : decimalValue (List.replicate count '0') = 0 := by
  induction count with
  | zero => rfl
  | succ count ih =>
    rw [List.replicate_succ', decimalValue_append, ih]
    rfl

end Text

end StoryWorld
