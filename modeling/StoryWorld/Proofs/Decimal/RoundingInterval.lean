import Mathlib.Algebra.Order.Field.Basic
import Mathlib.Data.Rat.Cast.Order
import Mathlib.Tactic.Linarith
import Mathlib.Tactic.NormNum
import Mathlib.Tactic.Positivity
import Mathlib.Tactic.Ring
import StoryWorld.Decimal.Shortest

/-!
# Decimals that round to a double

The search for the shortest decimal of a double compares natural numbers. Here its comparisons are
read as comparisons of rational numbers: a decimal is admitted just if its value lies in the
interval of the numbers that round to the double (`Binary.admits_iff`).

The search ends with a decimal in this interval (`Binary.roundsTo_search`). A neighbour of the
double on the finest grid always lies there, since the estimate of the decimal exponent is never
too great, so that the grid is finer than the interval is wide.
-/

set_option autoImplicit false

namespace StoryWorld.Decimal

/-! ## Values -/

/-- The number that a decimal stands for. -/
def Digits.value (decimal : Digits) : ℚ := decimal.digits * 10 ^ decimal.exponent

/-- The number that a mantissa and an exponent stand for. -/
def Binary.value (double : Binary) : ℚ := double.mantissa * 2 ^ double.exponent

theorem two_zpow_pos (exponent : Int) : (0 : ℚ) < 2 ^ exponent := zpow_pos (by norm_num) exponent

/-- Zeros at the end of the digits do not change the value. -/
theorem Digits.value_stripped (decimal : Digits) (steps : Nat) :
    (decimal.stripped steps).value = decimal.value := by
  induction steps generalizing decimal with
  | zero => rfl
  | succ steps ih =>
    unfold Digits.stripped
    split
    case isTrue ends =>
      have whole : decimal.digits = decimal.digits / 10 * 10 := by omega
      have cast : (decimal.digits : ℚ) = (decimal.digits / 10 : Nat) * 10 := by exact_mod_cast whole
      rw [ih, Digits.value, Digits.value, cast, zpow_add_one₀ (by norm_num)]
      ring
    case isFalse => rfl

/-! ## Comparisons -/

/-- A power with an integer exponent is a quotient of powers with natural ones. -/
theorem zpow_mul_pow {base : ℚ} (positive : 0 < base) (exponent : Int) :
    base ^ exponent * base ^ (-exponent).toNat = base ^ exponent.toNat := by
  have split : exponent + ((-exponent).toNat : Int) = (exponent.toNat : Int) := by omega
  rw [← zpow_natCast, ← zpow_natCast, ← zpow_add₀ positive.ne', split]

section Ratio

variable (twos tens : Int)

/-- Both parts of a ratio are the powers themselves, times one factor. -/
theorem exists_factor : ∃ factor : ℚ, 0 < factor ∧
    ((powerRatio twos tens).1 : ℚ) = 2 ^ twos * factor ∧
      ((powerRatio twos tens).2 : ℚ) = 10 ^ tens * factor := by
  refine ⟨2 ^ (-twos).toNat * 10 ^ (-tens).toNat, by positivity, ?_, ?_⟩
  · simp only [powerRatio, Nat.pow_eq, Nat.cast_mul, Nat.cast_pow, Nat.cast_ofNat]
    rw [← mul_assoc, zpow_mul_pow (by norm_num)]
  · simp only [powerRatio, Nat.pow_eq, Nat.cast_mul, Nat.cast_pow, Nat.cast_ofNat]
    rw [← zpow_mul_pow (by norm_num : (0 : ℚ) < 10)]
    ring

variable (units scale : Nat)

/-- Comparing with a ratio is comparing the numbers themselves. -/
theorem le_powerRatio_iff :
    units * (powerRatio twos tens).2 ≤ scale * (powerRatio twos tens).1 ↔
      (units : ℚ) * 10 ^ tens ≤ scale * 2 ^ twos := by
  obtain ⟨factor, positive, two, ten⟩ := exists_factor twos tens
  rw [← Nat.cast_le (α := ℚ), Nat.cast_mul, Nat.cast_mul, two, ten, ← mul_assoc, ← mul_assoc,
    mul_le_mul_iff_of_pos_right positive]

theorem powerRatio_le_iff :
    scale * (powerRatio twos tens).1 ≤ units * (powerRatio twos tens).2 ↔
      (scale : ℚ) * 2 ^ twos ≤ units * 10 ^ tens := by
  obtain ⟨factor, positive, two, ten⟩ := exists_factor twos tens
  rw [← Nat.cast_le (α := ℚ), Nat.cast_mul, Nat.cast_mul, two, ten, ← mul_assoc, ← mul_assoc,
    mul_le_mul_iff_of_pos_right positive]

theorem powerRatio_snd_pos : 0 < (powerRatio twos tens).2 := by
  have two : 0 < 2 ^ (-twos).toNat := by positivity
  have ten : 0 < 10 ^ tens.toNat := by positivity
  exact Nat.mul_pos two ten

end Ratio

/-! ## The interval -/

namespace Binary

variable (double : Binary)

/-- A quarter of the distance to the next greater double. -/
def quarter : ℚ := 2 ^ (double.exponent - 2)

/-- Four times the mantissa, less what the next smaller double allows for. -/
def lowQuarters : Nat := 4 * double.mantissa - if double.narrowBelow then 1 else 2

def highQuarters : Nat := 4 * double.mantissa + 2

/-- The numbers that round to the double; the ends of the interval do so if the mantissa is
even. -/
def RoundsTo (x : ℚ) : Prop :=
  if double.mantissa % 2 = 0 then
    double.lowQuarters * double.quarter ≤ x ∧ x ≤ double.highQuarters * double.quarter
  else double.lowQuarters * double.quarter < x ∧ x < double.highQuarters * double.quarter

variable {double}

/-- A decimal is admitted just if it rounds to the double. -/
theorem admits_iff {units : Nat} {exponent : Int} :
    double.admits units exponent = true ↔ double.RoundsTo (units * 10 ^ exponent) := by
  have opened : double.admits units exponent =
      if double.mantissa % 2 = 0 then
        decide (double.lowQuarters * (powerRatio (double.exponent - 2) exponent).1 ≤
            units * (powerRatio (double.exponent - 2) exponent).2 ∧
          units * (powerRatio (double.exponent - 2) exponent).2 ≤
            double.highQuarters * (powerRatio (double.exponent - 2) exponent).1)
      else
        decide (double.lowQuarters * (powerRatio (double.exponent - 2) exponent).1 <
            units * (powerRatio (double.exponent - 2) exponent).2 ∧
          units * (powerRatio (double.exponent - 2) exponent).2 <
            double.highQuarters * (powerRatio (double.exponent - 2) exponent).1) := rfl
  rw [opened, RoundsTo]
  split
  · rw [decide_eq_true_iff, powerRatio_le_iff, le_powerRatio_iff, quarter]
  · rw [decide_eq_true_iff, ← not_le, ← not_le, ← not_le, ← not_le, powerRatio_le_iff,
      le_powerRatio_iff, quarter]

/-- Inside the interval every number rounds to the double. -/
theorem roundsTo_of_between {x : ℚ} (above : double.lowQuarters * double.quarter < x)
    (below : x < double.highQuarters * double.quarter) : double.RoundsTo x := by
  unfold RoundsTo
  split
  · exact ⟨above.le, below.le⟩
  · exact ⟨above, below⟩

/-! ## The search -/

/-- How many steps of a grid fit below the number. -/
def floorOn (double : Binary) (exponent : Int) : Nat :=
  double.mantissa * (powerRatio double.exponent exponent).1 /
    (powerRatio double.exponent exponent).2

theorem floorOn_le (exponent : Int) :
    (double.floorOn exponent : ℚ) * 10 ^ exponent ≤ double.value :=
  (le_powerRatio_iff ..).1 (Nat.div_mul_le_self ..)

theorem lt_floorOn_add_one (exponent : Int) :
    double.value < (double.floorOn exponent + 1 : Nat) * 10 ^ exponent := by
  have positive : 0 < (powerRatio double.exponent exponent).2 := powerRatio_snd_pos ..
  have above : double.mantissa * (powerRatio double.exponent exponent).1 <
      (double.floorOn exponent + 1) * (powerRatio double.exponent exponent).2 :=
    (Nat.div_lt_iff_lt_mul positive).1 (Nat.lt_succ_self _)
  exact not_le.1 fun reached => absurd above (not_lt.2 ((le_powerRatio_iff ..).2 reached))

variable {tie : Tie}

/-- What is taken of a grid rounds to the double. -/
theorem roundsTo_of_onGrid? {exponent : Int} {found : Digits}
    (hit : double.onGrid? tie exponent = some found) : double.RoundsTo found.value := by
  unfold onGrid? at hit
  simp only at hit
  split at hit
  case h_1 lower _ =>
    cases hit
    exact admits_iff.1 lower
  case h_2 _ upper =>
    cases hit
    exact admits_iff.1 upper
  case h_3 => cases hit
  case h_4 lower upper =>
    split at hit
    · cases hit
      exact admits_iff.1 lower
    · cases hit
      exact admits_iff.1 upper

/-- A grid on which a neighbour rounds to the double gives one. -/
theorem exists_onGrid? {exponent : Int}
    (near : double.RoundsTo (double.floorOn exponent * 10 ^ exponent) ∨
      double.RoundsTo ((double.floorOn exponent + 1 : Nat) * 10 ^ exponent)) :
    ∃ found, double.onGrid? tie exponent = some found := by
  unfold onGrid?
  simp only
  split
  case h_1 => exact ⟨_, rfl⟩
  case h_2 => exact ⟨_, rfl⟩
  case h_3 lower upper =>
    rcases near with below | above
    · exact absurd (admits_iff.2 below) (by rw [floorOn, lower]; decide)
    · exact absurd (admits_iff.2 above) (by rw [floorOn, upper]; decide)
  case h_4 =>
    split
    · exact ⟨_, rfl⟩
    · exact ⟨_, rfl⟩

/-- The search ends with a decimal that rounds to the double if one of its grids gives one. -/
theorem roundsTo_search {leading : Int} {places count last : Nat} (reached : places ≤ last)
    (before : last < places + count)
    (near : ∃ found, double.onGrid? tie (leading - last) = some found) :
    double.RoundsTo (double.search tie leading places count).value := by
  induction count generalizing places with
  | zero => omega
  | succ count ih =>
    unfold search
    split
    case h_1 found hit => exact roundsTo_of_onGrid? hit
    case h_2 missed =>
      have later : places ≠ last := by
        rintro rfl
        obtain ⟨found, hit⟩ := near
        rw [missed] at hit
        cases hit
      exact ih (by omega) (by omega)

end Binary

/-! ## The estimate -/

/-- The estimate of the decimal exponent of a power of two is never too great. -/
theorem ten_zpow_estimate_le {twos : Int} (least : -1074 ≤ twos) (greatest : twos ≤ 1023) :
    (10 : ℚ) ^ (twos * 30103 / 100000) ≤ 2 ^ twos := by
  have whole : ∀ n < 1024, 10 ^ (n * 30103 / 100000) ≤ 2 ^ n := by decide +kernel
  have fractional : ∀ n < 1075, 2 ^ n ≤ 10 ^ ((n * 30103 + 99999) / 100000) := by decide +kernel
  rcases le_or_gt 0 twos with positive | negative
  · obtain ⟨n, rfl⟩ := Int.eq_ofNat_of_zero_le positive
    have exponent : (n : Int) * 30103 / 100000 = ((n * 30103 / 100000 : Nat) : Int) := by omega
    rw [exponent, zpow_natCast, zpow_natCast]
    exact_mod_cast whole n (by omega)
  · obtain ⟨n, rfl⟩ : ∃ n : Nat, twos = -n := ⟨twos.natAbs, by omega⟩
    have exponent : -(n : Int) * 30103 / 100000 = -((n * 30103 + 99999) / 100000 : Nat) := by omega
    rw [exponent, zpow_neg, zpow_neg, zpow_natCast, zpow_natCast]
    refine inv_anti₀ (by positivity) ?_
    exact_mod_cast fractional n (by omega)

namespace Binary

/-- A mantissa and an exponent as a finite double has them. -/
structure IsDouble (double : Binary) : Prop where
  mantissa_lt : double.mantissa < 2 * hiddenBit
  least : -1074 ≤ double.exponent
  greatest : double.exponent ≤ 971
  normal : -1074 < double.exponent → hiddenBit ≤ double.mantissa
  narrowBelow_iff : double.narrowBelow = true ↔
    double.mantissa = hiddenBit ∧ -1074 < double.exponent

variable {double : Binary} {tie : Tie}

/-- No power of ten that is greater is taken for the leading one. -/
theorem ten_zpow_decimalExponent_le (proper : double.IsDouble) (positive : 0 < double.mantissa) :
    10 ^ double.decimalExponent ≤ double.value := by
  have log := Nat.log2_self_le positive.ne'
  have short : double.mantissa.log2 < 53 :=
    (Nat.log2_lt positive.ne').2 proper.mantissa_lt
  unfold decimalExponent
  simp only
  split
  case isTrue reached =>
    have one := (le_powerRatio_iff _ _ 1 double.mantissa).1 ((one_mul _).trans_le reached)
    rwa [Nat.cast_one, one_mul] at one
  case isFalse =>
    have := proper.least
    have := proper.greatest
    calc (10 : ℚ) ^ (((double.mantissa.log2 : Int) + double.exponent) * 30103 / 100000)
        ≤ 2 ^ ((double.mantissa.log2 : Int) + double.exponent) :=
          ten_zpow_estimate_le (by omega) (by omega)
      _ = 2 ^ double.mantissa.log2 * 2 ^ double.exponent := by
          rw [zpow_add₀ (by norm_num), zpow_natCast]
      _ ≤ double.mantissa * 2 ^ double.exponent := by
          refine mul_le_mul_of_nonneg_right ?_ (two_zpow_pos _).le
          exact_mod_cast log

theorem value_eq_quarters : double.value = 4 * double.mantissa * double.quarter := by
  have whole : (2 : ℚ) ^ double.exponent = 2 ^ (double.exponent - 2) * 2 ^ (2 : Int) := by
    rw [← zpow_add₀ (by norm_num), Int.sub_add_cancel]
  rw [value, quarter, whole]
  norm_num
  ring

theorem quarter_pos : 0 < double.quarter := two_zpow_pos _

/-- Where a grid is finer than the interval is wide, one of the neighbours lies in the interval. -/
theorem exists_onGrid?_of_fine {exponent : Int}
    (above : double.lowQuarters * double.quarter < double.value)
    (below : double.value < double.highQuarters * double.quarter)
    (fine : (double.lowQuarters : ℚ) * double.quarter + 10 ^ exponent <
      double.highQuarters * double.quarter) :
    ∃ found, double.onGrid? tie exponent = some found := by
  have under := double.floorOn_le exponent
  have beyond := double.lt_floorOn_add_one exponent
  rcases lt_or_ge (double.lowQuarters * double.quarter)
    ((double.floorOn exponent : ℚ) * 10 ^ exponent) with inside | outside
  · exact exists_onGrid? (.inl (roundsTo_of_between inside (under.trans_lt below)))
  · refine exists_onGrid? (.inr (roundsTo_of_between (above.trans beyond) ?_))
    push_cast
    linarith

/-- How many quarters the interval reaches below the number. -/
def quartersBelow (double : Binary) : Nat := if double.narrowBelow then 1 else 2

theorem lowQuarters_add (positive : 0 < double.mantissa) :
    (double.lowQuarters : ℚ) + double.quartersBelow = 4 * double.mantissa := by
  have whole : double.lowQuarters + double.quartersBelow = 4 * double.mantissa := by
    unfold lowQuarters quartersBelow
    split <;> omega
  exact_mod_cast whole

theorem quartersBelow_pos : 0 < double.quartersBelow := by
  unfold quartersBelow
  split <;> decide

theorem quartersBelow_le : double.quartersBelow ≤ 2 := by
  unfold quartersBelow
  split <;> decide

/-- The mantissa is small, and smaller still where the interval is narrow. -/
theorem IsDouble.mantissa_le (proper : double.IsDouble) :
    double.mantissa ≤ double.quartersBelow * hiddenBit := by
  unfold quartersBelow
  split
  case isTrue narrow => rw [(proper.narrowBelow_iff.1 narrow).1, Nat.one_mul]
  case isFalse => exact proper.mantissa_lt.le

/-- The grid with seventeen digits is fine enough. -/
theorem exists_onGrid?_finest (proper : double.IsDouble) (positive : 0 < double.mantissa) :
    ∃ found, double.onGrid? tie (double.decimalExponent - 16) = some found := by
  have leading := ten_zpow_decimalExponent_le proper positive
  have step : (10 : ℚ) ^ double.decimalExponent =
      10 ^ (double.decimalExponent - 16) * 10 ^ 16 := by
    rw [← zpow_natCast, ← zpow_add₀ (by norm_num), Nat.cast_ofNat, Int.sub_add_cancel]
  have unit : 0 < double.quarter := quarter_pos
  have low := lowQuarters_add positive
  have high : (double.highQuarters : ℚ) = 4 * double.mantissa + 2 := by
    rw [highQuarters]
    push_cast
    rfl
  have reach : (0 : ℚ) < double.quartersBelow := by exact_mod_cast quartersBelow_pos
  have mantissa : (double.mantissa : ℚ) ≤ double.quartersBelow * hiddenBit := by
    exact_mod_cast proper.mantissa_le
  rw [value_eq_quarters, step] at leading
  refine exists_onGrid?_of_fine ?_ ?_ ?_
  · rw [value_eq_quarters]
    exact mul_lt_mul_of_pos_right (by linarith) unit
  · rw [value_eq_quarters, high]
    exact mul_lt_mul_of_pos_right (by linarith) unit
  · -- four times the hidden bit is less than twice ten to the sixteenth
    have scaled : (10 : ℚ) ^ (double.decimalExponent - 16) * 10 ^ 16 ≤
        4 * (double.quartersBelow * hiddenBit) * double.quarter :=
      leading.trans (mul_le_mul_of_nonneg_right (by linarith) unit.le)
    have narrowest : double.quartersBelow * double.quarter ≤ 2 * double.quarter :=
      mul_le_mul_of_nonneg_right (by exact_mod_cast quartersBelow_le) unit.le
    have bottom : double.lowQuarters * double.quarter =
        4 * double.mantissa * double.quarter - double.quartersBelow * double.quarter := by
      rw [← low]
      ring
    rw [bottom, high]
    norm_num [hiddenBit] at scaled
    linarith

/-- **The shortest decimal rounds to its double.** -/
theorem roundsTo_search_decimalExponent (proper : double.IsDouble)
    (positive : 0 < double.mantissa) :
    double.RoundsTo (double.search tie double.decimalExponent 0 17).value :=
  roundsTo_search (Nat.zero_le 16) (by omega) (exists_onGrid?_finest proper positive)

end Binary

end StoryWorld.Decimal
