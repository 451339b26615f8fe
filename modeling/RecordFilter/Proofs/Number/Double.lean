import RecordFilter.Number.Double
import RecordFilter.Proofs.Number.Decimal
import Mathlib.Order.Monotone.Odd
import Mathlib.Tactic.FieldSimp
import Mathlib.Tactic.Linarith

/-! The rational numbers that finite doubles stand for, their order, and their exact decimals. -/

namespace RecordFilter.Double

/-- Below the first power of two each rank counts one unit. -/
theorem units_of_lt {rank : Nat} (small : rank < binade) : units rank = rank :=
  if_pos small

/-- In every later binade the step from rank to rank is the same power of two. -/
theorem units_of_le {rank : Nat} (large : binade ≤ rank) :
    units rank = (binade + rank % binade) * 2 ^ (rank / binade - 1) :=
  if_neg large.not_gt

/-- The next rank is the next one of its binade, or the first one of the next binade. -/
theorem next_rank (rank : Nat) :
    (rank + 1) / binade = rank / binade ∧ (rank + 1) % binade = rank % binade + 1 ∨
      (rank + 1) / binade = rank / binade + 1 ∧ (rank + 1) % binade = 0 ∧
        rank % binade + 1 = binade := by
  -- The next rank is one place further in its binade, or the first place of the next binade.
  unfold binade
  omega

/-- A greater rank counts more units. -/
theorem units_strictMono : StrictMono units := by
  -- One rank further there is one more step, and the last step of a binade leads to the next.
  refine strictMono_nat_of_lt_succ fun rank => ?_
  rcases lt_trichotomy (rank + 1) binade with small | last | large
  · rw [units_of_lt small, units_of_lt (Nat.lt_of_succ_lt small)]
    exact Nat.lt_succ_self rank
  · rw [units_of_lt (Nat.lt_of_succ_le last.le), last, units_of_le le_rfl]
    simp [← last]
  have within : binade ≤ rank := Nat.le_of_lt_succ large
  have later : 0 < rank / binade := Nat.div_pos within (by decide)
  rw [units_of_le within, units_of_le large.le]
  rcases next_rank rank with ⟨same, next⟩ | ⟨next, first, last⟩
  · rw [same, next]
    exact Nat.mul_lt_mul_of_pos_right (by omega) (Nat.two_pow_pos _)
  · have double : 2 ^ (rank / binade + 1 - 1) = 2 * 2 ^ (rank / binade - 1) := by
      rw [← Nat.pow_succ']
      congr 1
      omega
    rw [next, first, double, ← Nat.mul_assoc]
    exact Nat.mul_lt_mul_of_pos_right (by omega) (Nat.two_pow_pos _)

/-- The number of units that make one. -/
def unitsOfOne : Nat :=
  Nat.pow 2 1074

/-- One is made of some units. -/
theorem unitsOfOne_pos : 0 < unitsOfOne := by
  -- The power is made a variable, so that it is not computed.
  unfold unitsOfOne
  generalize 1074 = power
  exact Nat.two_pow_pos power

/-- The number that a rank stands for. -/
def magnitude (rank : Nat) : ℚ :=
  units rank / unitsOfOne

/-- A greater rank stands for a greater number. -/
theorem magnitude_strictMono : StrictMono magnitude := fun _ _ less =>
  div_lt_div_of_pos_right (mod_cast units_strictMono less) (mod_cast unitsOfOne_pos)

/-- No rank stands for a number below zero. -/
theorem magnitude_nonneg (rank : Nat) : 0 ≤ magnitude rank :=
  div_nonneg (Nat.cast_nonneg _) (Nat.cast_nonneg _)

/-- The first rank stands for zero. -/
@[simp] theorem magnitude_zero : magnitude 0 = 0 := by
  rw [magnitude, units_of_lt (by decide), Nat.cast_zero, zero_div]

/-- The number that a finite double stands for. -/
def value? : Double → Option ℚ
  | .finite negative rank => some (if negative then -magnitude rank.val else magnitude rank.val)
  | _ => none

/-- A finite double stands for some number. -/
theorem exists_value? {number : Double} (finite : number.isFinite = true) :
    ∃ quantity, number.value? = some quantity := by
  -- Of the three kinds of doubles only the finite ones stand for a number.
  cases number with
  | nan | infinite negative => cases finite
  | finite negative rank => exact ⟨_, rfl⟩

/-- The number at a position on the line of finite doubles. -/
def pointAt (position : Int) : ℚ :=
  if position < 0 then -magnitude position.natAbs else magnitude position.natAbs

/-- Positions before zero are those after it taken negative. -/
theorem pointAt_neg (position : Int) : pointAt (-position) = -pointAt position := by
  -- Positions are counted from zero to both sides.
  unfold pointAt
  rw [Int.natAbs_neg]
  rcases lt_trichotomy position 0 with before | rfl | after
  · rw [if_neg (by omega), if_pos before, neg_neg]
  · simp
  · rw [if_pos (by omega), if_neg (by omega)]

/-- A position further on holds a greater number. -/
theorem pointAt_lt {low high : Int} (less : low < high) : pointAt low < pointAt high := by
  -- The line is symmetric, and on its positive side the positions are ranks.
  refine strictMono_of_odd_strictMonoOn_nonneg pointAt_neg (fun low first high second less => ?_) less
  rw [Set.mem_Ici] at first second
  unfold pointAt
  rw [if_neg first.not_gt, if_neg second.not_gt]
  exact magnitude_strictMono (by omega)

/-- A finite double stands for the number at its position. -/
theorem value?_eq_some {number : Double} {quantity : ℚ} (stands : number.value? = some quantity) :
    ∃ position, number.position? = some position ∧ pointAt position = quantity := by
  -- A finite double has the place of its rank on the side of its sign.
  cases number with
  | nan | infinite negative => cases stands
  | finite negative rank =>
    refine ⟨_, rfl, ?_⟩
    rw [← Option.some.inj stands]
    cases negative with
    | false => simp [pointAt]
    | true =>
      rw [if_pos rfl, if_pos rfl, pointAt_neg]
      simp [pointAt]

/-- Finite doubles are ordered as the numbers that they stand for. -/
theorem compare?_eq {left right : Double} {low high : ℚ} (first : left.value? = some low)
    (second : right.value? = some high) : left.compare? right = some (cmp low high) := by
  -- Doubles are compared by their places, which follow each other as their values do.
  obtain ⟨here, placed, rfl⟩ := value?_eq_some first
  obtain ⟨there, beside, rfl⟩ := value?_eq_some second
  rw [StrictMono.cmp_map_eq (fun _ _ => pointAt_lt), cmp_eq_compare]
  simp [compare?, placed, beside]

/-- Taking out factors of two leaves the quotient by the power as it was. -/
theorem halve_spec (count power : Nat) :
    (halve count power).1 * 2 ^ power = count * 2 ^ (halve count power).2 := by
  -- Each factor that is taken out of the units comes off the power as well.
  induction power generalizing count with
  | zero => simp [halve]
  | succ power ih =>
    rw [halve]
    split
    · rename_i even
      rw [Nat.pow_succ, ← Nat.mul_assoc, ih, Nat.mul_right_comm, Nat.div_mul_cancel
        (Nat.dvd_of_mod_eq_zero even)]
    · rfl

/-- The exact decimal of a rank stands for the number that the rank stands for. -/
theorem exactMagnitude_value (rank : Nat) : (exactMagnitude rank).value = magnitude rank := by
  -- Tens are twos times fives, and the fives are those that the digits were multiplied by.
  unfold exactMagnitude magnitude unitsOfOne
  generalize units rank = count
  generalize 1074 = power
  rw [Nat.pow_eq, Nat.cast_pow, Nat.cast_ofNat]
  have halved := halve_spec count power
  generalize halve count power = taken at halved
  obtain ⟨odd, left⟩ := taken
  have counted : (odd : ℚ) * 2 ^ power = count * 2 ^ left := mod_cast halved
  have tens : (10 : ℚ) ^ left = 2 ^ left * 5 ^ left := by
    rw [← mul_pow]
    norm_num
  rw [eq_div_iff (by positivity), Decimal.value, zpow_neg, zpow_natCast, tens]
  simp only [Nat.pow_eq, Int.ofNat_eq_natCast]
  push_cast
  field_simp
  rw [counted, mul_comm]

/-- The exact decimal of a finite double stands for the same number as the double. -/
theorem toDecimal?_value (number : Double) :
    number.toDecimal?.map Decimal.value = number.value? := by
  -- The decimal of a rank stands for its magnitude, and the sign goes along.
  cases number with
  | nan | infinite negative => rfl
  | finite negative rank =>
    rw [value?, ← exactMagnitude_value]
    cases negative with
    | false => rfl
    | true => exact congrArg some (Decimal.value_neg _ _)

end RecordFilter.Double
