import RecordFilter.Number.Decimal
import Mathlib.Algebra.Order.Field.Power
import Mathlib.Algebra.Order.Ring.Rat
import Mathlib.Order.Compare
import Mathlib.Tactic.Positivity
import Mathlib.Tactic.Ring

/-! The rational numbers that decimals stand for, and why comparing digits compares those numbers. -/

namespace RecordFilter

namespace Numeral

/-- A number stays below the power of ten that its digits leave room for. -/
theorem lt_pow_digitCount (value : Nat) : value < 10 ^ digitCount value :=
  (Nat.length_toDigits_le_iff (by decide) Nat.length_toDigits_pos).1 le_rfl

/-- A number other than zero reaches the power of ten at its first digit. -/
theorem pow_digitCount_le {value : Nat} (present : value ≠ 0) :
    10 ^ (digitCount value - 1) ≤ value := by
  -- With one digit less the number would not have room.
  cases places : digitCount value - 1 with
  | zero => exact Nat.one_le_iff_ne_zero.2 present
  | succ fewer =>
    by_contra small
    have fits := (Nat.length_toDigits_le_iff (b := 10) (by decide) (Nat.succ_pos fewer)).2
      (Nat.lt_of_not_le small)
    have counted : digitCount value ≤ fewer + 1 := fits
    omega

end Numeral

namespace Decimal

/-- The number that a decimal stands for. -/
def value (number : Decimal) : ℚ :=
  number.digits * (10 : ℚ) ^ (-number.scale)

/-- The number that a decimal stands for without its sign. -/
def magnitude (number : Decimal) : ℚ :=
  number.digits.natAbs * (10 : ℚ) ^ (-number.scale)

variable {left right number : Decimal}

/-- A whole number stands for itself. -/
@[simp] theorem value_ofInt (whole : Int) : (ofInt whole).value = whole := by
  simp [ofInt, value]

/-- Decimals of opposite digits stand for opposite numbers. -/
theorem value_neg (digits scale : Int) :
    (⟨-digits, scale⟩ : Decimal).value = -(⟨digits, scale⟩ : Decimal).value := by
  simp [value]

/-- A decimal without a minus sign is its magnitude. -/
theorem value_of_nonneg (positive : 0 ≤ number.digits) : number.value = number.magnitude := by
  rw [value, magnitude, Nat.cast_natAbs, abs_of_nonneg positive]

/-- A decimal with a minus sign is its magnitude taken negative. -/
theorem value_of_neg (negative : number.digits < 0) : number.value = -number.magnitude := by
  -- The value keeps the sign that the magnitude drops.
  rw [value, magnitude, Nat.cast_natAbs, abs_of_neg negative]
  push_cast
  ring

/-- A decimal is negative when its digits are. -/
theorem value_neg_iff : number.value < 0 ↔ number.digits < 0 := by
  have unit : 0 < (10 : ℚ) ^ (-number.scale) := by positivity
  rw [value, ← neg_pos, ← neg_mul, mul_pos_iff_of_pos_right unit, neg_pos, Int.cast_lt_zero]

/-- A decimal is positive when its digits are. -/
theorem value_pos_iff : 0 < number.value ↔ 0 < number.digits := by
  have unit : 0 < (10 : ℚ) ^ (-number.scale) := by positivity
  rw [value, mul_pos_iff_of_pos_right unit, Int.cast_pos]

/-- A decimal of the lesser sign is the lesser number. -/
theorem value_lt_of_sign (less : left.digits.sign < right.digits.sign) :
    left.value < right.value := by
  -- One of the two has a sign, and the other one stands on the other side of zero or is zero.
  rcases lt_trichotomy left.digits 0 with negative | zero | positive
  · have other : 0 ≤ right.value := by
      rw [← not_lt, value_neg_iff]
      intro same
      rw [Int.sign_eq_neg_one_of_neg negative, Int.sign_eq_neg_one_of_neg same] at less
      exact lt_irrefl _ less
    exact (value_neg_iff.2 negative).trans_le other
  · rw [zero, Int.sign_zero, Int.sign_pos_iff] at less
    simpa [value, zero] using value_pos_iff.2 less
  · rw [Int.sign_eq_one_of_pos positive] at less
    have signs := Int.sign_trichotomy right.digits
    omega

/-- The leading digit stands just below the top, so the magnitude does too. -/
theorem magnitude_lt_top (number : Decimal) : number.magnitude < (10 : ℚ) ^ number.top := by
  -- A number of so many digits lies below that power of ten.
  rw [top, sub_eq_add_neg, zpow_add₀ (by norm_num), magnitude, zpow_natCast]
  exact mul_lt_mul_of_pos_right (mod_cast Numeral.lt_pow_digitCount _) (by positivity)

/-- The leading digit of a decimal other than zero counts at least one where it stands. -/
theorem top_le_magnitude (present : number.digits ≠ 0) :
    (10 : ℚ) ^ (number.top - 1) ≤ number.magnitude := by
  -- A number with so many digits is at least the power of ten that has as many.
  have counted : 0 < Numeral.digitCount number.digits.natAbs := Nat.length_toDigits_pos
  have place : number.top - 1 =
      ((Numeral.digitCount number.digits.natAbs - 1 : Nat) : Int) + -number.scale := by
    unfold top
    omega
  rw [place, zpow_add₀ (by norm_num), magnitude, zpow_natCast]
  exact mul_le_mul_of_nonneg_right
    (mod_cast Numeral.pow_digitCount_le (Int.natAbs_ne_zero.2 present)) (by positivity)

/-- A decimal whose leading digit stands lower has the smaller magnitude. -/
theorem magnitude_lt_of_top (present : right.digits ≠ 0) (lower : left.top < right.top) :
    left.magnitude < right.magnitude :=
  calc left.magnitude < (10 : ℚ) ^ left.top := magnitude_lt_top left
    _ ≤ (10 : ℚ) ^ (right.top - 1) := zpow_le_zpow_right₀ (by norm_num) (by omega)
    _ ≤ right.magnitude := top_le_magnitude present

/-- Bringing a magnitude to a finer scale counts it in units of that scale. -/
theorem magnitudeAt_eq {scale : Int} (finer : number.scale ≤ scale) :
    (number.magnitudeAt scale : ℚ) = number.magnitude * (10 : ℚ) ^ scale := by
  -- Going to a finer scale multiplies by the power of ten between the two scales.
  have shift : (10 : ℚ) ^ (scale - number.scale).toNat = 10 ^ (-number.scale) * 10 ^ scale := by
    rw [← zpow_natCast, Int.toNat_of_nonneg (by omega), ← zpow_add₀ (by norm_num)]
    congr 1
    omega
  simp only [magnitudeAt, magnitude, Nat.pow_eq, Nat.cast_mul, Nat.cast_pow, Nat.cast_ofNat,
    shift, mul_assoc]

/-- An order that two stages settle is the order of numbers with which both stages go. -/
theorem compare_then_eq_cmp {first second : Int} {rest : Ordering} {low high : ℚ}
    (below : first < second → low < high) (above : second < first → high < low)
    (level : first = second → rest = cmp low high) :
    (Ord.compare first second).then rest = cmp low high := by
  -- The first numbers decide unless they are equal, and then the rest does.
  rcases lt_trichotomy first second with less | same | more
  · rw [Int.compare_eq_lt.2 less, (below less).cmp_eq_lt]
    rfl
  · rw [Int.compare_eq_eq.2 same, level same]
    rfl
  · rw [Int.compare_eq_gt.2 more, (above more).cmp_eq_gt]
    rfl

/-- Magnitudes are ordered by their leading digits first and then by all digits at one scale. -/
theorem compareMagnitude_eq (first : left.digits ≠ 0) (second : right.digits ≠ 0) :
    left.compareMagnitude right = cmp left.magnitude right.magnitude := by
  refine compare_then_eq_cmp (magnitude_lt_of_top second) (magnitude_lt_of_top first) fun _ => ?_
  -- Both magnitudes are counted in the same units, which leaves their order as it is.
  rw [← cmp_eq_compare, ← Nat.strictMono_cast.cmp_map_eq (β := ℚ),
    magnitudeAt_eq (le_max_left ..), magnitudeAt_eq (le_max_right ..),
    cmp_mul_pos_right (by positivity)]

/-- Decimals are ordered as the numbers that they stand for. -/
theorem compare_eq (left right : Decimal) : left.compare right = cmp left.value right.value := by
  refine compare_then_eq_cmp value_lt_of_sign value_lt_of_sign fun same => ?_
  -- Within one sign the magnitudes decide, of negative ones the other way round.
  rcases lt_trichotomy left.digits 0 with negative | zero | positive
  · have other : right.digits < 0 := by
      rwa [← Int.sign_eq_neg_one_iff_neg, ← same, Int.sign_eq_neg_one_iff_neg]
    rw [if_neg negative.ne, if_pos negative, compareMagnitude_eq other.ne negative.ne,
      value_of_neg negative, value_of_neg other]
    exact (StrictAnti.cmp_map_eq (fun _ _ => neg_lt_neg) _ _).symm
  · have other : right.digits = 0 := by
      rwa [← Int.sign_eq_zero_iff_zero, ← same, Int.sign_eq_zero_iff_zero]
    rw [if_pos zero, value, value, zero, other, Int.cast_zero, zero_mul, zero_mul, cmp_self_eq_eq]
  · have other : 0 < right.digits := by
      rwa [← Int.sign_eq_one_iff_pos, ← same, Int.sign_eq_one_iff_pos]
    rw [if_neg positive.ne', if_neg positive.not_gt, compareMagnitude_eq positive.ne' other.ne',
      value_of_nonneg positive.le, value_of_nonneg other.le]

end Decimal

end RecordFilter
