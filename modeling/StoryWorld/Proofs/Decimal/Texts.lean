import StoryWorld.Proofs.Decimal.Doubles
import StoryWorld.Proofs.Decimal.Numerals
import StoryWorld.Proofs.Text.Delimited

/-!
# Doubles are told by their texts

The text of a finite double is a sign and a numeral: digits with a point, perhaps followed by an
exponent. A numeral is read as a rational number (`numeral`), and what is written for a double
reads as its shortest decimal, wherever the point stands (`numeral_magnitude_of_ne`). Since the
shortest decimal rounds to its double, and to no other one, two doubles never have the same text,
in whichever form they are written (`Form.render_injective`).
-/

set_option autoImplicit false

namespace StoryWorld

namespace Decimal

open Text (decimalValue)

/-! ## Numerals -/

/-- The number that digits with a point among them write. -/
def pointed (text : List Char) : ℚ :=
  decimalValue (Text.beforeFirst '.' text ++ Text.afterFirst '.' text) *
    10 ^ (-((Text.afterFirst '.' text).length : Int))

/-- The exponent that digits after a sign write; none is zero. -/
def exponentOf : List Char → Int
  | '-' :: digits => -decimalValue digits
  | '+' :: digits => decimalValue digits
  | digits => decimalValue digits

/-- The number that digits with a point and an exponent write. -/
def numeral (text : List Char) : ℚ :=
  pointed (Text.beforeFirst 'e' text) * 10 ^ exponentOf (Text.afterFirst 'e' text)

theorem pointed_append {whole rest : List Char} (absent : '.' ∉ whole) :
    pointed (whole ++ '.' :: rest) =
      decimalValue (whole ++ rest) * 10 ^ (-(rest.length : Int)) := by
  rw [pointed, Text.beforeFirst_append absent, Text.afterFirst_append absent]

theorem pointed_of_not_mem {digits : List Char} (absent : '.' ∉ digits) :
    pointed digits = decimalValue digits := by
  rw [pointed, Text.beforeFirst_of_not_mem absent, Text.afterFirst_of_not_mem absent]
  simp

theorem numeral_of_not_mem {text : List Char} (absent : 'e' ∉ text) :
    numeral text = pointed text := by
  rw [numeral, Text.beforeFirst_of_not_mem absent, Text.afterFirst_of_not_mem absent]
  simp [exponentOf, decimalValue]

section Digits

variable {digits : List Char} (all : ∀ c ∈ digits, c.isDigit = true)

include all

theorem isDigit_of_mem_append_zeros {count : Nat} :
    ∀ c ∈ digits ++ List.replicate count '0', c.isDigit = true := by
  intro c member
  rcases List.mem_append.1 member with inside | zero
  · exact all c inside
  · rw [List.eq_of_mem_replicate zero]
    decide

/-- Wherever the point stands, digits with a point are read with the exponent of the first one. -/
theorem pointed_positional (leading : Int) :
    pointed (positional digits leading) =
      decimalValue digits * 10 ^ (leading + 1 - digits.length) := by
  have ten : (10 : ℚ) ≠ 0 := by norm_num
  unfold positional
  split
  case isTrue small =>
    have exponent : leading + 1 - (digits.length : Int) =
        -(((-leading - 1).toNat + digits.length : Nat) : Int) := by omega
    rw [List.append_assoc]
    change pointed (['0'] ++ '.' :: (List.replicate (-leading - 1).toNat '0' ++ digits)) = _
    rw [pointed_append (by decide), Text.decimalValue_append, Text.decimalValue_append,
      Text.decimalValue_zeros, List.length_append, List.length_replicate, exponent]
    simp [decimalValue, Text.digitValue]
  case isFalse large =>
    simp only
    split
    case isTrue short =>
      have exponent : leading + 1 - (digits.length : Int) =
          ((leading.toNat + 1 - digits.length : Nat) : Int) := by omega
      rw [pointed_append (not_mem_of_isDigit (isDigit_of_mem_append_zeros all) (by decide)),
        Text.decimalValue_append, Text.decimalValue_append, Text.decimalValue_zeros, exponent,
        zpow_natCast]
      simp [decimalValue, Text.digitValue]
    case isFalse long =>
      have exponent : leading + 1 - (digits.length : Int) =
          -((digits.length - (leading.toNat + 1) : Nat) : Int) := by omega
      rw [List.append_assoc, List.singleton_append, pointed_append, List.take_append_drop,
        List.length_drop, exponent]
      exact not_mem_of_isDigit (fun c member => all c (List.mem_of_mem_take member)) (by decide)

theorem not_mem_positional {mark : Char} (other : mark.isDigit = false) (point : mark ≠ '.')
    (leading : Int) : mark ∉ positional digits leading := by
  have absent : mark ∉ digits := not_mem_of_isDigit all other
  have zero : mark ≠ '0' := fun same => by
    rw [same] at other
    cases other
  unfold positional
  split
  · simp [absent, point, zero]
  · simp only
    split
    · simp [absent, point, zero]
    · have front : mark ∉ digits.take (leading.toNat + 1) := fun inside =>
        absent (List.mem_of_mem_take inside)
      have back : mark ∉ digits.drop (leading.toNat + 1) := fun inside =>
        absent (List.mem_of_mem_drop inside)
      simp [front, back, point]

theorem not_mem_scientific {mark : Char} (other : mark.isDigit = false)
    (marks : mark ∉ ['.', 'e', '+', '-']) (signed : Bool) (leading : Int) :
    mark ∉ scientific signed digits leading := by
  simp only [List.mem_cons, List.not_mem_nil, or_false, not_or] at marks
  obtain ⟨point, letter, plus, minus⟩ := marks
  have absent : mark ∉ digits := not_mem_of_isDigit all other
  have exponent : mark ∉ exponentText signed leading := by
    have few : mark ∉ digitsOf leading.natAbs :=
      not_mem_of_isDigit (fun _ member => isDigit_of_mem_digitsOf member) other
    unfold exponentText
    split
    · simp [few, minus]
    · split
      · simp [few, plus]
      · exact few
  unfold scientific
  cases digits with
  | nil => simp [letter, exponent]
  | cons first rest =>
    cases rest with
    | nil => simpa [letter, exponent] using absent
    | cons second rest => simpa [letter, exponent, point] using absent

theorem exponentOf_of_isDigit : exponentOf digits = decimalValue digits := by
  unfold exponentOf
  split
  · exact absurd (all '-' (List.mem_cons_self ..)) (by decide)
  · exact absurd (all '+' (List.mem_cons_self ..)) (by decide)
  · rfl

end Digits

/-- An exponent is read from its text, signed or not. -/
theorem exponentOf_exponentText (signed : Bool) (exponent : Int) :
    exponentOf (exponentText signed exponent) = exponent := by
  unfold exponentText
  split
  · simp only [exponentOf, decimalValue_digitsOf]
    omega
  · split
    · simp only [exponentOf, decimalValue_digitsOf]
      omega
    · rw [exponentOf_of_isDigit fun _ => isDigit_of_mem_digitsOf, decimalValue_digitsOf]
      omega

theorem numeral_scientific {digits : List Char} (all : ∀ c ∈ digits, c.isDigit = true)
    (some : digits ≠ []) (signed : Bool) (leading : Int) :
    numeral (scientific signed digits leading) =
      decimalValue digits * 10 ^ (leading + 1 - digits.length) := by
  have ten : (10 : ℚ) ≠ 0 := by norm_num
  have absent : 'e' ∉ digits := not_mem_of_isDigit all (by decide)
  have noPoint : '.' ∉ digits := not_mem_of_isDigit all (by decide)
  obtain ⟨first, rest, rfl⟩ := List.exists_cons_of_ne_nil some
  cases rest with
  | nil =>
    change numeral ([first] ++ 'e' :: exponentText signed leading) = _
    rw [numeral, Text.beforeFirst_append absent, Text.afterFirst_append absent,
      pointed_of_not_mem noPoint, exponentOf_exponentText]
    simp
  | cons second rest =>
    have fewer : 'e' ∉ [first] ++ '.' :: second :: rest := by
      simpa using absent
    have whole : '.' ∉ [first] := by
      intro member
      exact noPoint (List.mem_cons.2 (.inl (List.mem_singleton.1 member)))
    change numeral (([first] ++ '.' :: second :: rest) ++ 'e' :: exponentText signed leading) = _
    rw [numeral, Text.beforeFirst_append fewer, Text.afterFirst_append fewer,
      pointed_append whole, exponentOf_exponentText, mul_assoc, ← zpow_add₀ ten]
    have exponent : -((second :: rest).length : Int) + leading =
        leading + 1 - (first :: second :: rest).length := by
      simp only [List.length_cons]
      omega
    rw [exponent]
    rfl

theorem numeral_positional {digits : List Char} (all : ∀ c ∈ digits, c.isDigit = true)
    (leading : Int) :
    numeral (positional digits leading) =
      decimalValue digits * 10 ^ (leading + 1 - digits.length) := by
  rw [numeral_of_not_mem (not_mem_positional all (by decide) (by decide) leading),
    pointed_positional all]

/-! ## Magnitudes -/

section Magnitude

variable (form : Form) {x : Float}

theorem numeral_magnitude_of_ne (other : (x == 0) = false) :
    numeral (form.magnitude x) = (shortest form.tie x).value := by
  have all : ∀ c ∈ digitsOf (shortest form.tie x).digits, c.isDigit = true :=
    fun _ => isDigit_of_mem_digitsOf
  have exponent : (shortest form.tie x).exponent =
      (shortest form.tie x).exponent + (digitsOf (shortest form.tie x).digits).length - 1 + 1 -
        (digitsOf (shortest form.tie x).digits).length := by omega
  unfold Form.magnitude
  rw [if_neg (by rw [other]; decide), Digits.value, exponent]
  simp only
  split
  · rw [numeral_positional all, decimalValue_digitsOf]
  · rw [numeral_scientific all (digitsOf_ne_nil _), decimalValue_digitsOf]

/-- What is written for a finite double rounds to it. -/
theorem roundsTo_numeral_magnitude (finite : x.isFinite = true) :
    (Binary.ofFloat x).RoundsTo (numeral (form.magnitude x)) := by
  cases zero : x == 0 with
  | true =>
    have none := mantissa_ofFloat_eq_zero_iff.2 zero
    have nothing : numeral (form.magnitude x) = 0 := by
      rw [Form.magnitude, if_pos zero, numeral_of_not_mem (by decide)]
      simp [pointed, Text.beforeFirst, Text.afterFirst, decimalValue, Text.digitValue]
    rw [nothing, Binary.RoundsTo, none, Binary.lowQuarters, Binary.highQuarters, none]
    have unit : 0 < (Binary.ofFloat x).quarter := Binary.quarter_pos
    simp [unit.le]
  | false =>
    rw [numeral_magnitude_of_ne form zero, shortest, Digits.value_stripped]
    refine Binary.roundsTo_search_decimalExponent (isDouble_ofFloat finite) ?_
    refine Nat.pos_of_ne_zero fun none => ?_
    rw [mantissa_ofFloat_eq_zero_iff.1 none] at zero
    cases zero

/-- What is written for a finite double begins with a digit. -/
theorem exists_digit_cons_magnitude :
    ∃ c rest, form.magnitude x = c :: rest ∧ c.isDigit = true := by
  unfold Form.magnitude
  split
  · exact ⟨'0', _, rfl, by decide⟩
  obtain ⟨first, others, digits⟩ :=
    List.exists_cons_of_ne_nil (digitsOf_ne_nil (shortest form.tie x).digits)
  have digit : first.isDigit = true :=
    isDigit_of_mem_digitsOf (digits ▸ List.mem_cons_self .. :
      first ∈ digitsOf (shortest form.tie x).digits)
  simp only
  rw [digits]
  split
  · unfold positional
    split
    · exact ⟨'0', _, rfl, by decide⟩
    · simp only
      split
      · exact ⟨first, _, rfl, digit⟩
      · exact ⟨first, _, rfl, digit⟩
  · unfold scientific
    cases others with
    | nil => exact ⟨first, _, rfl, digit⟩
    | cons second rest => exact ⟨first, _, rfl, digit⟩

theorem not_mem_magnitude {mark : Char} (other : mark.isDigit = false)
    (marks : mark ∉ ['.', 'e', '+', '-']) : mark ∉ form.magnitude x := by
  have all : ∀ c ∈ digitsOf (shortest form.tie x).digits, c.isDigit = true :=
    fun _ => isDigit_of_mem_digitsOf
  have point : mark ≠ '.' := fun same => marks (same ▸ List.mem_cons_self ..)
  unfold Form.magnitude
  split
  · have zero : mark ≠ '0' := fun same => by
      rw [same] at other
      cases other
    simp [zero, point]
  · simp only
    split
    · exact not_mem_positional all other point _
    · exact not_mem_scientific all other marks _ _

end Magnitude

/-! ## Whole texts -/

section Render

variable (form : Form) {x y : Float}

/-- The text of a number without its sign. -/
def Form.unsigned (form : Form) (x : Float) : List Char :=
  if x.isFinite then form.magnitude x else ['i', 'n', 'f']

theorem render_of_isNaN (nan : x.isNaN = true) : form.render x = ['N', 'a', 'N'] := if_pos nan

theorem render_of_number (number : x.isNaN = false) :
    form.render x = if isNegative x then '-' :: form.unsigned x else form.unsigned x :=
  if_neg (by rw [number]; decide)

/-- The text of a double consists of digits, a point, signs, and the letters of an exponent or of a
word. -/
theorem not_mem_render {mark : Char} (other : mark.isDigit = false)
    (marks : mark ∉ ['.', 'e', '+', '-']) (letters : mark ∉ ['N', 'a', 'i', 'n', 'f']) :
    mark ∉ form.render x := by
  have magnitude : mark ∉ form.magnitude x := not_mem_magnitude form other marks
  simp only [List.mem_cons, List.not_mem_nil, or_false, not_or] at marks letters
  obtain ⟨-, -, -, minus⟩ := marks
  cases nan : x.isNaN with
  | true =>
    rw [render_of_isNaN form nan]
    simp [letters]
  | false =>
    have unsigned : mark ∉ form.unsigned x := by
      unfold Form.unsigned
      split
      · exact magnitude
      · simp [letters]
    rw [render_of_number form nan]
    split
    · simp [unsigned, minus]
    · exact unsigned

/-- The first character tells finite doubles from infinite ones, and is no sign. -/
theorem exists_cons_unsigned :
    ∃ c rest, form.unsigned x = c :: rest ∧ c.isDigit = x.isFinite ∧ c ≠ '-' ∧ c ≠ 'N' := by
  unfold Form.unsigned
  split
  case isTrue finite =>
    obtain ⟨c, rest, text, digit⟩ := exists_digit_cons_magnitude form (x := x)
    refine ⟨c, rest, text, digit.trans finite.symm, ?_, ?_⟩
    · rintro rfl
      cases digit
    · rintro rfl
      cases digit
  case isFalse infinite =>
    exact ⟨'i', _, rfl, (Bool.eq_false_of_not_eq_true infinite).symm, by decide, by decide⟩

theorem render_ne_of_isNaN (nan : x.isNaN = true) (number : y.isNaN = false) :
    form.render x ≠ form.render y := by
  obtain ⟨c, rest, text, -, -, letter⟩ := exists_cons_unsigned form (x := y)
  rw [render_of_isNaN form nan, render_of_number form number, text]
  split
  · intro same
    cases same
  · intro same
    exact letter (List.cons.inj same).1.symm

/-- The text of a number tells its sign from the rest. -/
theorem eq_of_render_eq (number : x.isNaN = false) (also : y.isNaN = false)
    (same : form.render x = form.render y) :
    isNegative x = isNegative y ∧ form.unsigned x = form.unsigned y := by
  obtain ⟨c, rest, text, -, sign, -⟩ := exists_cons_unsigned form (x := x)
  obtain ⟨d, others, alsoText, -, alsoSign, -⟩ := exists_cons_unsigned form (x := y)
  rw [render_of_number form number, render_of_number form also, text, alsoText] at same
  rw [text, alsoText]
  cases negative : isNegative x <;> cases alsoNegative : isNegative y <;>
    simp only [negative, alsoNegative, if_true] at same
  · exact ⟨rfl, same⟩
  · exact absurd (List.cons.inj same).1 sign
  · exact absurd (List.cons.inj same).1.symm alsoSign
  · exact ⟨rfl, (List.cons.inj same).2⟩

/-- **Doubles are told by their texts.** In whichever form doubles are written, no two of them have
the same text. -/
theorem Form.render_injective : Function.Injective form.render := by
  intro x y same
  cases nan : x.isNaN with
  | true =>
    cases also : y.isNaN with
    | true => exact eq_of_isNaN nan also
    | false => exact absurd same (render_ne_of_isNaN form nan also)
  | false =>
    cases also : y.isNaN with
    | true => exact absurd same.symm (render_ne_of_isNaN form also nan)
    | false =>
      obtain ⟨sign, text⟩ := eq_of_render_eq form nan also same
      obtain ⟨c, rest, cons, digit, -⟩ := exists_cons_unsigned form (x := x)
      obtain ⟨d, others, alsoCons, alsoDigit, -⟩ := exists_cons_unsigned form (x := y)
      have first : c = d := (List.cons.inj (cons.symm.trans (text.trans alsoCons))).1
      have kind : x.isFinite = y.isFinite := by rw [← digit, ← alsoDigit, first]
      cases finite : x.isFinite with
      | true =>
        have alsoFinite := kind.symm.trans finite
        rw [Form.unsigned, Form.unsigned, if_pos finite, if_pos alsoFinite] at text
        refine eq_of_roundsTo finite alsoFinite sign (roundsTo_numeral_magnitude form finite) ?_
        rw [text]
        exact roundsTo_numeral_magnitude form alsoFinite
      | false => exact eq_of_infinite nan also finite (kind.symm.trans finite) sign

end Render

end Decimal

end StoryWorld
