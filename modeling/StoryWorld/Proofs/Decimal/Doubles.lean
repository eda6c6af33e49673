import StoryWorld.Decimal.Form
import StoryWorld.Proofs.Decimal.RoundingInterval

/-!
# Doubles apart

A double is told by its sign, its biased exponent and its fraction (`eq_of_parts`); there is only
one that is not a number (`eq_of_isNaN`). The magnitudes of finite doubles are integers times powers
of two of the shape that the search for shortest decimals relies on (`isDouble_ofFloat`).

No number rounds to two of them: the interval of the smaller one ends where that of the greater one
begins, or before, and the common end belongs to at most one of the two, since the mantissas of
neighbours are not both even (`Binary.lt_of_precedes`).
-/

set_option autoImplicit false

namespace StoryWorld.Decimal

open Float.Model (UnpackedFloat)
open Float.Model.Format (binary64)

/-! ## Parts of a double -/

/-- The exponent of a double as it is stored. -/
def biasedExponent (x : Float) : Nat := x.toBits.toNat / hiddenBit % 2048

/-- The fraction of a double, which is its mantissa without the hidden bit. -/
def fraction (x : Float) : Nat := x.toBits.toNat % hiddenBit

/-- What a double stands for. -/
abbrev unpacked (x : Float) : UnpackedFloat := UnpackedFloat.unpack binary64 x.toBits.toBitVec

/-- The bits of the exponent. -/
abbrev exponentBits (x : Float) : BitVec 11 :=
  @UnpackedFloat.unpackExponent binary64 x.toBits.toBitVec

/-- The bits of the fraction. -/
abbrev fractionBits (x : Float) : BitVec 52 :=
  @UnpackedFloat.unpackMantissa binary64 x.toBits.toBitVec

theorem toNat_exponentBits (x : Float) : (exponentBits x).toNat = biasedExponent x := by
  simp [UnpackedFloat.unpackExponent, biasedExponent, hiddenBit, Nat.shiftRight_eq_div_pow]

theorem toNat_fractionBits (x : Float) : (fractionBits x).toNat = fraction x := by
  simp [UnpackedFloat.unpackMantissa, fraction, hiddenBit]

/-- The exponent and the fraction tell the four kinds of doubles apart. -/
theorem unpacked_cases (x : Float) :
    (biasedExponent x = 2047 ∧ fraction x ≠ 0 ∧ unpacked x = .notANumber) ∨
      (biasedExponent x = 2047 ∧ fraction x = 0 ∧ ∃ sign, unpacked x = .infinity sign) ∨
      (biasedExponent x = 0 ∧ fraction x = 0 ∧ ∃ sign, unpacked x = .zero sign) ∨
      (biasedExponent x ≠ 2047 ∧ ¬(biasedExponent x = 0 ∧ fraction x = 0) ∧
        ∃ sign mantissa exponent positive,
          unpacked x = .finite sign mantissa exponent positive) := by
  have ones : exponentBits x = -1#11 ↔ biasedExponent x = 2047 := by
    rw [← BitVec.toNat_inj, toNat_exponentBits]
    rfl
  have zeros : exponentBits x = 0#11 ↔ biasedExponent x = 0 := by
    rw [← BitVec.toNat_inj, toNat_exponentBits]
    rfl
  have whole : fractionBits x = 0#52 ↔ fraction x = 0 := by
    rw [← BitVec.toNat_inj, toNat_fractionBits]
    rfl
  by_cases special : exponentBits x = -1#11
  · by_cases infinite : fractionBits x = 0#52
    · exact .inr (.inl ⟨ones.1 special, whole.1 infinite, _,
        (if_pos special).trans (if_pos infinite)⟩)
    · exact .inl ⟨ones.1 special, mt whole.2 infinite, (if_pos special).trans (if_neg infinite)⟩
  · by_cases small : exponentBits x = 0#11
    · have low : unpacked x = _ := (if_neg special).trans (if_pos small)
      by_cases zero : fractionBits x = 0#52
      · exact .inr (.inr (.inl ⟨zeros.1 small, whole.1 zero, _, low.trans (dif_pos zero)⟩))
      · exact .inr (.inr (.inr ⟨mt ones.2 special, fun none => zero (whole.2 none.2), _, _, _, _,
          low.trans (dif_neg zero)⟩))
    · exact .inr (.inr (.inr ⟨mt ones.2 special, fun none => small (zeros.2 none.1), _, _, _, _,
        (if_neg special).trans (if_neg small)⟩))

theorem isFinite_iff {x : Float} : x.isFinite = true ↔ biasedExponent x ≠ 2047 := by
  change (unpacked x).isFinite = true ↔ _
  rcases unpacked_cases x with ⟨special, -, kind⟩ | ⟨special, -, _, kind⟩ | ⟨small, -, _, kind⟩ |
    ⟨finite, -, _, _, _, _, kind⟩
  · have told : (unpacked x).isFinite = false := congrArg UnpackedFloat.isFinite kind
    simp [told, special]
  · have told : (unpacked x).isFinite = false := congrArg UnpackedFloat.isFinite kind
    simp [told, special]
  · have told : (unpacked x).isFinite = true := congrArg UnpackedFloat.isFinite kind
    simp [told, small]
  · have told : (unpacked x).isFinite = true := congrArg UnpackedFloat.isFinite kind
    simp [told, finite]

theorem isNaN_iff {x : Float} : x.isNaN = true ↔ biasedExponent x = 2047 ∧ fraction x ≠ 0 := by
  change (unpacked x).isNaN = true ↔ _
  rcases unpacked_cases x with ⟨special, nan, kind⟩ | ⟨-, infinite, _, kind⟩ | ⟨-, zero, _, kind⟩ |
    ⟨finite, -, _, _, _, _, kind⟩
  · have told : (unpacked x).isNaN = true := congrArg UnpackedFloat.isNaN kind
    simp [told, special, nan]
  · have told : (unpacked x).isNaN = false := congrArg UnpackedFloat.isNaN kind
    simp [told, infinite]
  · have told : (unpacked x).isNaN = false := congrArg UnpackedFloat.isNaN kind
    simp [told, zero]
  · have told : (unpacked x).isNaN = false := congrArg UnpackedFloat.isNaN kind
    simp [told, finite]

/-- Zero has no bits but the one of its sign. -/
theorem beq_zero_iff {x : Float} : (x == 0) = true ↔ biasedExponent x = 0 ∧ fraction x = 0 := by
  change (unpacked x).beq (.zero .positive) = true ↔ _
  rcases unpacked_cases x with ⟨special, -, kind⟩ | ⟨special, -, sign, kind⟩ |
    ⟨small, none, sign, kind⟩ | ⟨-, other, sign, _, _, _, kind⟩
  · have told : (unpacked x).beq (.zero .positive) = false := by rw [kind]; rfl
    simp [told, special]
  · have told : (unpacked x).beq (.zero .positive) = false := by rw [kind]; cases sign <;> rfl
    simp [told, special]
  · have told : (unpacked x).beq (.zero .positive) = true := by rw [kind]; rfl
    simp [told, small, none]
  · have told : (unpacked x).beq (.zero .positive) = false := by rw [kind]; cases sign <;> rfl
    simpa [told] using other

theorem eq_of_toBits {x y : Float} (same : x.toBits = y.toBits) : x = y := by
  obtain ⟨⟨bits, valid⟩⟩ := x
  obtain ⟨⟨others, also⟩⟩ := y
  cases (same : bits = others)
  rfl

/-- A double is told by its sign, its exponent and its fraction. -/
theorem eq_of_parts {x y : Float} (sign : isNegative x = isNegative y)
    (exponent : biasedExponent x = biasedExponent y) (rest : fraction x = fraction y) : x = y := by
  have sign' : signBit ≤ x.toBits.toNat ↔ signBit ≤ y.toBits.toNat := decide_eq_decide.1 sign
  have short := x.toBits.toNat_lt
  have alsoShort := y.toBits.toNat_lt
  refine eq_of_toBits (UInt64.toNat.inj ?_)
  simp only [signBit, biasedExponent, fraction, hiddenBit] at sign' exponent rest
  omega

/-- Only one double is not a number. -/
theorem eq_of_isNaN {x y : Float} (nan : x.isNaN = true) (also : y.isNaN = true) : x = y := by
  have canonical {z : Float} (nan : z.isNaN = true) :
      z.toBits.toBitVec = UnpackedFloat.packedNaN binary64 := by
    obtain ⟨special, rest⟩ := isNaN_iff.1 nan
    refine z.toModel.valid.eq_packedNaN ?_ fun none => rest ?_
    · exact BitVec.toNat_inj.1 ((toNat_exponentBits z).trans special)
    · rw [← toNat_fractionBits]
      exact congrArg BitVec.toNat none
  exact eq_of_toBits (UInt64.toBitVec_inj.1 ((canonical nan).trans (canonical also).symm))

/-- Only one double of each sign is infinite. -/
theorem eq_of_infinite {x y : Float} (number : x.isNaN = false) (also : y.isNaN = false)
    (infinite : x.isFinite = false) (alsoInfinite : y.isFinite = false)
    (sign : isNegative x = isNegative y) : x = y := by
  have parts {z : Float} (number : z.isNaN = false) (infinite : z.isFinite = false) :
      biasedExponent z = 2047 ∧ fraction z = 0 := by
    rw [← Bool.not_eq_true, isFinite_iff, not_not] at infinite
    rw [← Bool.not_eq_true, isNaN_iff, not_and, not_not] at number
    exact ⟨infinite, number infinite⟩
  obtain ⟨exponent, rest⟩ := parts number infinite
  obtain ⟨alsoExponent, alsoRest⟩ := parts also alsoInfinite
  exact eq_of_parts sign (exponent.trans alsoExponent.symm) (rest.trans alsoRest.symm)

/-! ## Magnitudes -/

section Magnitude

variable {x : Float}

theorem ofFloat_of_small (small : biasedExponent x = 0) :
    Binary.ofFloat x = ⟨fraction x, -1074, false⟩ := if_pos small

theorem ofFloat_of_normal (normal : biasedExponent x ≠ 0) :
    Binary.ofFloat x = ⟨hiddenBit + fraction x, (biasedExponent x : Int) - 1075,
      decide (fraction x = 0 ∧ 1 < biasedExponent x)⟩ := if_neg normal

theorem fraction_lt : fraction x < hiddenBit := Nat.mod_lt _ (by decide)

theorem mantissa_ofFloat_eq_zero_iff : (Binary.ofFloat x).mantissa = 0 ↔ (x == 0) = true := by
  rw [beq_zero_iff]
  by_cases small : biasedExponent x = 0
  · rw [ofFloat_of_small small]
    simp [small]
  · rw [ofFloat_of_normal small]
    simp [small, hiddenBit]

end Magnitude

/-- The magnitude of a finite double is of the shape that the search relies on. -/
theorem isDouble_ofFloat {x : Float} (finite : x.isFinite = true) :
    (Binary.ofFloat x).IsDouble := by
  have exponent : biasedExponent x < 2048 := Nat.mod_lt _ (by decide)
  have special := isFinite_iff.1 finite
  have rest := fraction_lt (x := x)
  by_cases small : biasedExponent x = 0
  · rw [ofFloat_of_small small]
    exact ⟨by dsimp only; omega, le_refl _, by norm_num, fun normal => absurd normal (lt_irrefl _),
      by simp⟩
  · rw [ofFloat_of_normal small]
    refine ⟨?_, ?_, ?_, ?_, ?_⟩ <;> simp only [decide_eq_true_eq] <;> omega

/-- Doubles of one magnitude and one sign are the same. -/
theorem eq_of_ofFloat {x y : Float} (sign : isNegative x = isNegative y)
    (mantissa : (Binary.ofFloat x).mantissa = (Binary.ofFloat y).mantissa)
    (exponent : (Binary.ofFloat x).exponent = (Binary.ofFloat y).exponent) : x = y := by
  have rest := fraction_lt (x := x)
  have also := fraction_lt (x := y)
  suffices parts : biasedExponent x = biasedExponent y ∧ fraction x = fraction y from
    eq_of_parts sign parts.1 parts.2
  by_cases small : biasedExponent x = 0 <;> by_cases alsoSmall : biasedExponent y = 0
  · rw [ofFloat_of_small small, ofFloat_of_small alsoSmall] at mantissa
    exact ⟨small.trans alsoSmall.symm, mantissa⟩
  · rw [ofFloat_of_small small, ofFloat_of_normal alsoSmall] at mantissa
    dsimp only at mantissa
    omega
  · rw [ofFloat_of_normal small, ofFloat_of_small alsoSmall] at mantissa
    dsimp only at mantissa
    omega
  · rw [ofFloat_of_normal small, ofFloat_of_normal alsoSmall] at mantissa exponent
    dsimp only at mantissa exponent
    omega

/-! ## Order -/

namespace Binary

/-- A smaller magnitude, for those that finite doubles have. -/
def Precedes (double other : Binary) : Prop :=
  double.exponent < other.exponent ∨
    (double.exponent = other.exponent ∧ double.mantissa < other.mantissa)

theorem lowQuarters_of_wide {double : Binary} (wide : double.narrowBelow = false) :
    double.lowQuarters = 4 * double.mantissa - 2 := by
  rw [lowQuarters, wide]
  rfl

/-- A normal double has at least the hidden bit, and more where the interval is wide. -/
theorem IsDouble.le_lowQuarters {double : Binary} (proper : double.IsDouble)
    (normal : -1074 < double.exponent) : 4 * hiddenBit ≤ double.lowQuarters + 1 := by
  have mantissa := proper.normal normal
  cases narrow : double.narrowBelow with
  | true =>
    rw [lowQuarters, narrow, (proper.narrowBelow_iff.1 narrow).1]
    decide
  | false =>
    have more : double.mantissa ≠ hiddenBit := by
      intro same
      rw [proper.narrowBelow_iff.2 ⟨same, normal⟩] at narrow
      cases narrow
    rw [lowQuarters_of_wide narrow]
    omega

variable {double other : Binary} (proper : double.IsDouble) (also : other.IsDouble)
  (before : double.Precedes other)

include proper also before

/-- The interval of the smaller double ends where that of the greater one begins, or before; and
before, if both mantissas are even. -/
theorem exists_quarters_between : ∃ quarters : Nat,
    double.highQuarters ≤ quarters ∧
      (double.mantissa % 2 = 0 → other.mantissa % 2 = 0 → double.highQuarters < quarters) ∧
        (quarters : ℚ) * double.quarter ≤ other.lowQuarters * other.quarter := by
  rcases before with exponents | ⟨exponents, mantissas⟩
  · -- the greater double is normal, and a quarter of it is at least two of the smaller one
    have short := proper.mantissa_lt
    have low := also.le_lowQuarters (lt_of_le_of_lt proper.least exponents)
    unfold hiddenBit at short low
    have double_quarter : 2 * double.quarter ≤ other.quarter := by
      have one : 2 * double.quarter = 2 ^ (double.exponent - 2 + 1) := by
        rw [quarter, zpow_add_one₀ (by norm_num), mul_comm]
      rw [one, quarter]
      exact zpow_le_zpow_right₀ (by norm_num) (by omega)
    refine ⟨2 * other.lowQuarters, ?_, fun even _ => ?_, ?_⟩
    · rw [highQuarters]
      omega
    · rw [highQuarters]
      omega
    · calc ((2 * other.lowQuarters : Nat) : ℚ) * double.quarter
          = other.lowQuarters * (2 * double.quarter) := by
            push_cast
            ring
        _ ≤ other.lowQuarters * other.quarter :=
            mul_le_mul_of_nonneg_left double_quarter (Nat.cast_nonneg _)
  · have wide : other.narrowBelow = false := by
      rw [← Bool.not_eq_true, also.narrowBelow_iff]
      rintro ⟨least, normal⟩
      have mantissa := proper.normal (exponents ▸ normal)
      omega
    have low := lowQuarters_of_wide wide
    refine ⟨other.lowQuarters, ?_, fun even alsoEven => ?_, ?_⟩
    · rw [highQuarters]
      omega
    · rw [highQuarters]
      omega
    · rw [quarter, quarter, exponents]

/-- **No number rounds to two doubles.** What rounds to the smaller one is less than what rounds to
the greater one. -/
theorem lt_of_precedes {x y : ℚ} (rounds : double.RoundsTo x) (alsoRounds : other.RoundsTo y) :
    x < y := by
  obtain ⟨quarters, above, apart, below⟩ := exists_quarters_between proper also before
  have above' : (double.highQuarters : ℚ) * double.quarter ≤ quarters * double.quarter :=
    mul_le_mul_of_nonneg_right (by exact_mod_cast above) quarter_pos.le
  unfold RoundsTo at rounds alsoRounds
  split at rounds
  case isTrue even =>
    split at alsoRounds
    case isTrue alsoEven =>
      have apart' : (double.highQuarters : ℚ) * double.quarter < quarters * double.quarter :=
        mul_lt_mul_of_pos_right (by exact_mod_cast apart even alsoEven) quarter_pos
      linarith
    case isFalse => linarith
  case isFalse =>
    split at alsoRounds
    case isTrue => linarith
    case isFalse => linarith

end Binary

/-- A number rounds to at most one finite double of each sign. -/
theorem eq_of_roundsTo {x y : Float} (finite : x.isFinite = true) (also : y.isFinite = true)
    (sign : isNegative x = isNegative y) {number : ℚ}
    (rounds : (Binary.ofFloat x).RoundsTo number)
    (alsoRounds : (Binary.ofFloat y).RoundsTo number) : x = y := by
  have forth : ¬ (Binary.ofFloat x).Precedes (Binary.ofFloat y) := fun before =>
    lt_irrefl number (Binary.lt_of_precedes (isDouble_ofFloat finite) (isDouble_ofFloat also) before
      rounds alsoRounds)
  have back : ¬ (Binary.ofFloat y).Precedes (Binary.ofFloat x) := fun before =>
    lt_irrefl number (Binary.lt_of_precedes (isDouble_ofFloat also) (isDouble_ofFloat finite) before
      alsoRounds rounds)
  unfold Binary.Precedes at forth back
  have exponent : (Binary.ofFloat x).exponent = (Binary.ofFloat y).exponent := by omega
  have mantissa : (Binary.ofFloat x).mantissa = (Binary.ofFloat y).mantissa := by omega
  exact eq_of_ofFloat sign mantissa exponent

end StoryWorld.Decimal
