import RecordFilter.Proofs.Number.Double

/-! Rounding to the nearest double: what is a double already is found, and bounds are kept. -/

namespace RecordFilter.Double

/-- The search ends at the last rank whose magnitude is within the fraction. -/
theorem rankBelow_spec {scaled denominator bits rank : Nat}
    (within : units rank * denominator ≤ scaled)
    (beyond : scaled < units (rank + 2 ^ bits) * denominator) :
    units (rankBelow scaled denominator bits rank) * denominator ≤ scaled ∧
      scaled < units (rankBelow scaled denominator bits rank + 1) * denominator := by
  -- Each bit halves the interval of ranks that are left.
  induction bits generalizing rank with
  | zero => exact ⟨within, beyond⟩
  | succ bit ih =>
    have halves : rank + 2 ^ (bit + 1) = rank + 2 ^ bit + 2 ^ bit := by
      rw [Nat.pow_succ]
      omega
    rw [rankBelow, Nat.pow_eq]
    split
    · rename_i upper
      exact ih upper (halves ▸ beyond)
    · rename_i lower
      exact ih within (Nat.lt_of_not_le lower)

variable {scaled numerator denominator rank : Nat}

/-- Beside any denominator the next rank counts for more. -/
theorem units_mul_lt (positive : 0 < denominator) (rank : Nat) :
    units rank * denominator < units (rank + 1) * denominator :=
  Nat.mul_lt_mul_of_pos_right (units_strictMono (Nat.lt_succ_self rank)) positive

/-- The search ends no later than at any rank whose magnitude is not below the fraction. -/
theorem rankBelow_le (positive : 0 < denominator) (searched : rank < 2 ^ 63)
    (bounded : scaled ≤ units rank * denominator) :
    rankBelow scaled denominator 63 0 ≤ rank ∧
      scaled < units (rankBelow scaled denominator 63 0 + 1) * denominator := by
  -- The search begins between zero and a rank beyond all that are asked about.
  have within : units 0 * denominator ≤ scaled := by
    rw [units_of_lt (by decide), Nat.zero_mul]
    exact Nat.zero_le scaled
  have beyond : scaled < units (0 + 2 ^ 63) * denominator :=
    bounded.trans_lt (Nat.mul_lt_mul_of_pos_right (units_strictMono (by omega)) positive)
  obtain ⟨below, above⟩ := rankBelow_spec within beyond
  have bound := Nat.le_of_mul_le_mul_right (below.trans bounded) positive
  exact ⟨units_strictMono.le_iff_le.1 bound, above⟩

/-- The search finds the rank whose magnitude the fraction is. -/
theorem rankBelow_of_eq (positive : 0 < denominator) (searched : rank < 2 ^ 63)
    (same : scaled = units rank * denominator) : rankBelow scaled denominator 63 0 = rank := by
  -- What is met exactly is neither above nor below the rank that is found.
  obtain ⟨atMost, above⟩ := rankBelow_le positive searched same.le
  rw [same] at above
  have atLeast := units_strictMono.lt_iff_lt.1 (Nat.lt_of_mul_lt_mul_right above)
  rw [← same] at atLeast
  omega

/-- The nearest rank is the one that the search ends at, or the next one if that is no farther. -/
theorem nearestRank_cases (numerator denominator : Nat) :
    ∃ scaled rank, scaled = numerator * unitsOfOne ∧
      rank = rankBelow scaled denominator 63 0 ∧
      (nearestRank numerator denominator = rank ∧
          2 * scaled ≤ (units rank + units (rank + 1)) * denominator ∨
        nearestRank numerator denominator = rank + 1 ∧
          (units rank + units (rank + 1)) * denominator ≤ 2 * scaled) := by
  refine ⟨_, _, rfl, rfl, ?_⟩
  -- The function is opened before it is applied, and the power hidden at once: once its match is
  -- held against anything, comparing the two would run the whole search.
  rw [show nearestRank = _ from by delta nearestRank; rfl]
  unfold unitsOfOne
  generalize Nat.pow 2 1074 = unit
  dsimp only
  generalize rankBelow (numerator * unit) denominator 63 0 = rank
  split
  · rename_i below
    exact .inl ⟨rfl, (Nat.compare_eq_lt.1 below).le⟩
  · rename_i above
    exact .inr ⟨rfl, (Nat.compare_eq_gt.1 above).le⟩
  · rename_i middle
    have same := Nat.compare_eq_eq.1 middle
    split
    · exact .inl ⟨rfl, same.le⟩
    · exact .inr ⟨rfl, same.ge⟩

/-- A fraction that is the magnitude of a rank is rounded to that rank. -/
theorem nearestRank_of_eq (positive : 0 < denominator) (searched : rank < 2 ^ 63)
    (same : numerator * unitsOfOne = units rank * denominator) :
    nearestRank numerator denominator = rank := by
  -- The search finds the rank itself, and the next one is farther away.
  obtain ⟨scaled, found, counted, rfl, rounded⟩ := nearestRank_cases numerator denominator
  rw [← counted] at same
  rw [rankBelow_of_eq positive searched same] at rounded
  have next := units_mul_lt positive rank
  rw [Nat.add_mul] at rounded
  omega

/-- A fraction up to the magnitude of a rank is not rounded beyond that rank. -/
theorem nearestRank_le (positive : 0 < denominator) (searched : rank < 2 ^ 63)
    (bounded : numerator * unitsOfOne ≤ units rank * denominator) :
    nearestRank numerator denominator ≤ rank := by
  -- From the rank itself on, the next one would be farther away than the fraction reaches.
  obtain ⟨scaled, found, counted, searchedFor, rounded⟩ := nearestRank_cases numerator denominator
  rw [← counted] at bounded
  have atMost := (rankBelow_le positive searched bounded).1
  rw [← searchedFor] at atMost
  rcases Nat.lt_or_eq_of_le atMost with before | rfl
  · omega
  · have next := units_mul_lt positive found
    rw [Nat.add_mul] at rounded
    omega

/-- A rank that counts the units of one a number of times stands for that number. -/
theorem magnitude_eq_iff {count : Nat} :
    magnitude rank = count ↔ count * unitsOfOne = units rank := by
  -- A magnitude is counted in units of which one whole has a fixed number.
  rw [magnitude, div_eq_iff (mod_cast unitsOfOne_pos.ne'), eq_comm]
  norm_cast

/-- The number of a finite rank stands for its magnitude, with the sign. -/
theorem ofRank_value? {negative : Bool} (within : rank < rankCount) :
    (ofRank negative rank).value? =
      some (if negative then -magnitude rank else magnitude rank) := by
  rw [ofRank, dif_pos within, value?]

/-- An integer is its size with its sign. -/
theorem signed_natAbs (whole : Int) :
    (if decide (whole < 0) = true then -(whole.natAbs : ℚ) else whole.natAbs) = whole := by
  -- An integer is its absolute value with its sign.
  rw [Nat.cast_natAbs, Int.cast_abs]
  rcases lt_or_ge whole 0 with before | after
  · rw [if_pos (decide_eq_true before), abs_of_neg (mod_cast before), neg_neg]
  · rw [if_neg (by simpa using after), abs_of_nonneg (mod_cast after)]

/-- An integer that some double stands for is rounded to such a double. -/
theorem ofInt_value? {whole : Int} {number : Double} (stands : number.value? = some (whole : ℚ)) :
    (ofInt whole).value? = some (whole : ℚ) := by
  -- A double that stands for the integer has the rank to which the integer is rounded.
  cases number with
  | nan | infinite negative => cases stands
  | finite negative rank =>
    have signed : (if negative then -magnitude rank else magnitude rank) = (whole : ℚ) :=
      Option.some.inj stands
    have counted : magnitude rank = whole.natAbs := by
      rw [Nat.cast_natAbs, Int.cast_abs, ← signed]
      cases negative <;> simp [abs_of_nonneg (magnitude_nonneg _)]
    have searched : rank.val < 2 ^ 63 := rank.isLt.trans (by decide)
    have rounded : nearestRank whole.natAbs 1 = rank :=
      nearestRank_of_eq one_pos searched ((magnitude_eq_iff.1 counted).trans (Nat.mul_one _).symm)
    rw [ofInt, ofFraction, rounded, ofRank_value? rank.isLt, counted, signed_natAbs]

/-- A place in a binade other than the first counts a multiple of the power of two of its steps. -/
theorem units_place {power place : Nat} (within : place < binade) :
    units ((power + 1) * binade + place) = (binade + place) * 2 ^ power := by
  -- Beyond the first binade the units of a place double with every binade.
  have large : binade ≤ (power + 1) * binade + place := by
    rw [Nat.succ_mul]
    omega
  have index : ((power + 1) * binade + place) / binade = power + 1 := by
    rw [Nat.mul_comm, Nat.mul_add_div (by decide), Nat.div_eq_of_lt within, Nat.add_zero]
  have offset : ((power + 1) * binade + place) % binade = place := by
    rw [Nat.mul_comm, Nat.mul_add_mod, Nat.mod_eq_of_lt within]
  rw [units_of_le large, index, offset, Nat.add_sub_cancel]

/-- The first rank of a binade counts a power of two. -/
theorem units_binade (power : Nat) : units ((power + 1) * binade) = 2 ^ (52 + power) := by
  -- A binade begins at its place zero.
  have first : units ((power + 1) * binade + 0) = (binade + 0) * 2 ^ power :=
    units_place (by decide)
  rw [Nat.add_zero, Nat.add_zero] at first
  rw [first, Nat.pow_add]
  rfl

/-- The units of one are a power of two themselves. -/
theorem two_pow_eq_unitsOfOne {power : Nat} (same : power = 1074) : 2 ^ power = unitsOfOne := by
  unfold unitsOfOne
  -- The exponent is hidden, so that nothing computes the power.
  generalize 1074 = exponent at same ⊢
  exact congrArg (2 ^ ·) same

/-- As many units as a power of two has are a power of two. -/
theorem two_pow_mul_unitsOfOne (bits : Nat) : 2 ^ bits * unitsOfOne = 2 ^ (52 + (bits + 1022)) := by
  -- The power is kept as a variable with an equation, so that it is not computed.
  obtain ⟨power, same⟩ : ∃ power, power = 1074 := ⟨_, rfl⟩
  rw [← two_pow_eq_unitsOfOne same, ← Nat.pow_add]
  exact congrArg (2 ^ ·) (by omega)

/-- Integers up to a power of two that is a double are rounded to finite doubles. -/
theorem ofInt_isFinite {whole : Int} {bits : Nat} (small : bits < 1024)
    (within : whole.natAbs ≤ 2 ^ bits) : (ofInt whole).isFinite = true := by
  -- Rounding does not go beyond the double at the bound, and that one is finite.
  have bounded : whole.natAbs * unitsOfOne ≤ units ((bits + 1022 + 1) * binade) * 1 := by
    rw [units_binade, ← two_pow_mul_unitsOfOne, Nat.mul_one]
    exact Nat.mul_le_mul_right _ within
  have finite : (bits + 1022 + 1) * binade < rankCount := by
    unfold binade rankCount
    omega
  have rounded : nearestRank whole.natAbs 1 < rankCount :=
    (nearestRank_le one_pos (finite.trans (by decide)) bounded).trans_lt finite
  rw [ofInt, ofFraction, ofRank, dif_pos rounded, isFinite]

/-- A number whose leading bit is one of 53 has a rank of its own in the binade of that bit. -/
theorem exists_rank_of_leading {count bits : Nat} (least : 2 ^ bits ≤ count)
    (most : count < 2 ^ (bits + 1)) (narrow : bits < 53) :
    ∃ rank : Fin rankCount, magnitude rank = count := by
  -- Shifted up to 53 bits, the number shows its place in the binade.
  have lower : binade ≤ count * 2 ^ (52 - bits) :=
    calc binade = 2 ^ bits * 2 ^ (52 - bits) := by
          rw [← Nat.pow_add, Nat.add_sub_cancel' (by omega)]
          rfl
      _ ≤ count * 2 ^ (52 - bits) := Nat.mul_le_mul_right _ least
  have upper : count * 2 ^ (52 - bits) < 2 * binade :=
    calc count * 2 ^ (52 - bits) < 2 ^ (bits + 1) * 2 ^ (52 - bits) :=
          Nat.mul_lt_mul_of_pos_right most (Nat.two_pow_pos _)
      _ = 2 ^ 53 := by rw [← Nat.pow_add, show bits + 1 + (52 - bits) = 53 by omega]
      _ = 2 * binade := rfl
  have place : count * 2 ^ (52 - bits) - binade < binade := by omega
  have finite : (bits + 1022 + 1) * binade + (count * 2 ^ (52 - bits) - binade) < rankCount := by
    have last : (bits + 1022 + 1) * binade ≤ 1075 * binade := Nat.mul_le_mul_right _ (by omega)
    have room : 1075 * binade + binade < rankCount := by decide
    omega
  refine ⟨⟨_, finite⟩, magnitude_eq_iff.2 ?_⟩
  rw [units_place place, Nat.add_sub_cancel' lower, Nat.mul_assoc, ← Nat.pow_add]
  exact congrArg (count * ·) (two_pow_eq_unitsOfOne (by omega)).symm

/-- Numbers up to two to the power of 53 have ranks of their own. -/
theorem exists_rank {count : Nat} (small : count ≤ 2 ^ 53) :
    ∃ rank : Fin rankCount, magnitude rank = count := by
  -- Below the bound the bits before and after the leading one fit, and the bound is a power.
  rcases Nat.eq_zero_or_pos count with rfl | positive
  · exact ⟨⟨0, by decide⟩, by simp⟩
  rcases Nat.lt_or_eq_of_le small with within | rfl
  · have least := Nat.log2_self_le positive.ne'
    have narrow := (Nat.pow_lt_pow_iff_right (by decide)).1 (least.trans_lt within)
    exact exists_rank_of_leading least Nat.lt_log2_self narrow
  · refine ⟨⟨(53 + 1022 + 1) * binade, by decide⟩, magnitude_eq_iff.2 ?_⟩
    rw [units_binade, two_pow_mul_unitsOfOne]

/-- Integers up to two to the power of 53 in size are doubles. -/
theorem exists_value?_eq {whole : Int} (small : whole.natAbs ≤ 2 ^ 53) :
    ∃ number : Double, number.value? = some (whole : ℚ) := by
  -- The magnitude is that of the absolute value, and the sign is added to it.
  obtain ⟨rank, counted⟩ := exists_rank small
  refine ⟨.finite (whole < 0) rank, ?_⟩
  rw [value?, counted, signed_natAbs]

end RecordFilter.Double
