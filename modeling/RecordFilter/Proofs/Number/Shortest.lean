import RecordFilter.Json.Text
import RecordFilter.Proofs.Json.Numeral
import RecordFilter.Proofs.Number.Rounding

/-! The shortest digits of doubles: how far their exponents go, and the numerals that they are written as. -/

namespace RecordFilter

namespace Numeral

/-- A number that is wider than its width has no zero in front. -/
theorem length_padded_le {width value : Nat} (zero : (padded width value).head? = some '0') :
    (padded width value).length ≤ max 1 width := by
  -- Beyond the width there are only the digits, which begin with zero for zero alone.
  rw [length_padded]
  by_cases wide : digitCount value ≤ width
  · omega
  · rw [padded, Nat.sub_eq_zero_of_le (by omega), List.replicate_zero, List.nil_append] at zero
    obtain rfl := head?_digits zero
    have one : digitCount 0 = 1 := by decide
    omega

namespace Scientific

variable {number : Scientific}

/-- Each zero that is moved out of the digits makes the exponent greater by one. -/
theorem trimmedBy_exponent (fuel : Nat) (number : Scientific) :
    number.exponent ≤ (trimmedBy fuel number).exponent ∧
      (trimmedBy fuel number).exponent ≤ number.exponent + fuel := by
  -- A zero that is taken off moves the exponent up by one, and fuel bounds the zeros.
  induction fuel generalizing number with
  | zero => simp [trimmedBy]
  | succ fuel ih =>
    rw [trimmedBy]
    split
    · obtain ⟨least, most⟩ := ih ⟨number.digits / 10, number.exponent + 1⟩
      dsimp only at least most
      omega
    · omega

/-- Moving zeros out of the digits leaves some digit that is no zero. -/
theorem trimmedBy_digits (fuel : Nat) (present : number.digits ≠ 0) :
    (trimmedBy fuel number).digits ≠ 0 := by
  -- Only a number that ten divides is divided by ten, so nothing becomes zero.
  induction fuel generalizing number with
  | zero => exact present
  | succ fuel ih =>
    rw [trimmedBy]
    split
    · apply ih
      dsimp only
      omega
    · exact present

/-- The exponent grows by no more than there are digits. -/
theorem trimmed_exponent (number : Scientific) :
    number.exponent ≤ number.trimmed.exponent ∧
      number.trimmed.exponent ≤ number.exponent + digitCount number.digits := by
  -- Zero is put to the exponent zero, and other numbers have no more zeros than digits.
  unfold trimmed
  split
  · omega
  · exact trimmedBy_exponent _ number

/-- Some digit is left that is no zero. -/
theorem trimmed_digits (present : number.digits ≠ 0) : number.trimmed.digits ≠ 0 := by
  -- Only zeros are trimmed off, and zero itself is treated apart.
  rw [trimmed, if_neg present]
  exact trimmedBy_digits _ present

end Scientific

end Numeral

namespace Double

open Numeral (Scientific digitCount signed)

/-- What stands on a grid and reads back has the exponent of the grid and no more digits than it takes. -/
theorem onGrid?_eq_some {tie : Tie} {rank dropped : Nat} {exact number : Scientific}
    (found : onGrid? tie rank exact dropped = some number) :
    number.exponent = exact.exponent + dropped ∧ number.digits ≤ exact.digits + 1 ∧
      readsBack rank number = true := by
  have fewer : exact.digits / Nat.pow 10 dropped ≤ exact.digits := Nat.div_le_self _ _
  -- One of the two neighbours is found, and only one that reads back is taken.
  unfold onGrid? at found
  dsimp only at found
  split at found
  · split at found <;> grind
  · grind
  · grind
  · cases found

/-- Factors of two are only taken out. -/
theorem halve_le (count power : Nat) :
    (halve count power).1 ≤ count ∧ (halve count power).2 ≤ power := by
  -- Each halving makes the count smaller and takes one off the power.
  induction power generalizing count with
  | zero => simp [halve]
  | succ power ih =>
    rw [halve]
    split
    · obtain ⟨fewer, lower⟩ := ih (count / 2)
      omega
    · exact ⟨le_rfl, le_rfl⟩

/-- Something is left when factors of two are taken out. -/
theorem halve_ne_zero {count : Nat} (present : count ≠ 0) (power : Nat) : (halve count power).1 ≠ 0 := by
  -- What is left makes the count again when it is doubled as often.
  have kept := halve_spec count power
  intro none
  rw [none, Nat.zero_mul] at kept
  exact absurd kept (Nat.mul_pos (Nat.pos_of_ne_zero present) (Nat.two_pow_pos _)).ne

/-- Each place of five takes less than three bits. -/
theorem halve_mul_lt {count bits : Nat} (small : count < 2 ^ bits) (power : Nat) :
    (halve count power).1 * 5 ^ (halve count power).2 < 2 ^ (bits + 3 * power) := by
  -- A five for each power that is left is less than three doublings.
  obtain ⟨fewer, lower⟩ := halve_le count power
  have fives : 5 ^ (halve count power).2 ≤ 2 ^ (3 * power) :=
    calc 5 ^ (halve count power).2 ≤ (2 ^ 3) ^ (halve count power).2 :=
          Nat.pow_le_pow_left (by decide) _
      _ ≤ (2 ^ 3) ^ power := Nat.pow_le_pow_right (by decide) lower
      _ = 2 ^ (3 * power) := (Nat.pow_mul ..).symm
  calc _ < 2 ^ bits * 2 ^ (3 * power) :=
        Nat.mul_lt_mul_of_lt_of_le (fewer.trans_lt small) fives (Nat.two_pow_pos _)
    _ = 2 ^ (bits + 3 * power) := (Nat.pow_add ..).symm

/-- The bits that the exact digits of a finite magnitude take at most. -/
def exactBits : Nat :=
  52 + 2046 + 3 * 1074

/-- The exact digits of a finite magnitude stay below a power of two. -/
theorem exactMagnitude_lt {rank : Nat} (within : rank < rankCount) :
    (exactMagnitude rank).digits.natAbs < 2 ^ exactBits := by
  -- The greatest finite rank is the last before the binade beyond all of them.
  have small : units rank < 2 ^ (52 + 2046) := by
    rw [← units_binade 2046]
    exact units_strictMono (Nat.lt_of_lt_of_eq within (by decide))
  unfold exactBits
  exact halve_mul_lt small 1074

/-- Only zero has no digits in its exact form. -/
theorem exactMagnitude_ne_zero {rank : Nat} (present : rank ≠ 0) :
    (exactMagnitude rank).digits.natAbs ≠ 0 := by
  -- Every rank but zero has units, which are neither halved away nor multiplied away.
  have counted : 0 < units rank := by
    rw [← units_of_lt (show 0 < binade by decide)]
    exact units_strictMono (Nat.pos_of_ne_zero present)
  exact Nat.mul_ne_zero (halve_ne_zero counted.ne' 1074) (Nat.pow_pos (by decide)).ne'

/-- The shortest form of zero is the single digit. -/
theorem shortest_zero (tie : Tie) : shortest tie 0 = ⟨0, 0⟩ := by
  cases tie <;> decide +kernel

/-- The exact digits of a magnitude. -/
def exactDigits (rank : Nat) : Scientific :=
  ⟨(exactMagnitude rank).digits.natAbs, -(exactMagnitude rank).scale⟩

/-- The shortest form comes from the exact digits or from a grid that drops some of them. -/
theorem exists_shortest_eq (tie : Tie) (rank : Nat) :
    ∃ number : Scientific, shortest tie rank = number.trimmed ∧
      (number = exactDigits rank ∨ ∃ dropped ≤ digitCount (exactDigits rank).digits,
        onGrid? tie rank (exactDigits rank) dropped = some number) := by
  -- The first grid that has a number in range decides, and else the exact digits.
  refine ⟨_, rfl, ?_⟩
  cases hit : (List.range (min 17 (digitCount (exactDigits rank).digits))).findSome? fun kept =>
      onGrid? tie rank (exactDigits rank) (digitCount (exactDigits rank).digits - (kept + 1)) with
  | none => exact .inl (congrArg (Option.getD · (exactDigits rank)) hit)
  | some number =>
    obtain ⟨kept, -, found⟩ := List.exists_of_findSome?_eq_some hit
    refine .inr ⟨_, Nat.sub_le _ (kept + 1), ?_⟩
    rw [found]
    exact congrArg (fun hit => some (Option.getD hit (exactDigits rank))) hit.symm

/-- Only zero has the shortest form zero. -/
theorem shortest_digits (tie : Tie) {rank : Nat} (within : rank < rankCount) (present : rank ≠ 0) :
    (shortest tie rank).digits ≠ 0 := by
  obtain ⟨number, shortest, rfl | ⟨dropped, -, found⟩⟩ := exists_shortest_eq tie rank
  · rw [shortest]
    exact Scientific.trimmed_digits (exactMagnitude_ne_zero present)
  · -- Zero would read back as zero.
    rw [shortest]
    refine Scientific.trimmed_digits fun zero => ?_
    obtain ⟨-, -, back⟩ := onGrid?_eq_some found
    rw [readsBack, zero, ofScientific, if_pos (.inl rfl), ofRank, ofRank, dif_pos within,
      dif_pos (by decide), beq_iff_eq, Double.finite.injEq] at back
    exact present (congrArg Fin.val back.2).symm

/-- The shortest form of a finite magnitude has an exponent of moderate size. -/
theorem shortest_exponent (tie : Tie) {rank : Nat} (within : rank < rankCount) :
    -1074 ≤ (shortest tie rank).exponent ∧ (shortest tie rank).exponent ≤ 20000 := by
  have scale : -1074 ≤ (exactDigits rank).exponent ∧ (exactDigits rank).exponent ≤ 0 := by
    have lower := (halve_le (units rank) 1074).2
    show -1074 ≤ -((halve (units rank) 1074).2 : Int) ∧ -((halve (units rank) 1074).2 : Int) ≤ 0
    omega
  have small : (exactDigits rank).digits + 1 < 10 ^ exactBits :=
    Nat.lt_of_le_of_lt (exactMagnitude_lt within)
      (Nat.pow_lt_pow_left (by decide) (by decide : exactBits ≠ 0))
  -- Neither the digits that a grid drops nor the zeros that are taken off are more than there are.
  have count {digits : Nat} (fewer : digits ≤ (exactDigits rank).digits + 1) :
      digitCount digits ≤ 5320 :=
    @Numeral.digitCount_le _ exactBits (by decide) (fewer.trans_lt small)
  have exactCount := count (Nat.le_succ (exactDigits rank).digits)
  obtain ⟨number, shortest, rfl | ⟨dropped, few, found⟩⟩ := exists_shortest_eq tie rank
  · have trimmed := Scientific.trimmed_exponent (exactDigits rank)
    rw [shortest]
    omega
  · obtain ⟨grid, fewer, -⟩ := onGrid?_eq_some found
    have trimmed := Scientific.trimmed_exponent number
    have digits := count fewer
    rw [shortest]
    omega

/-- The shortest form of a finite magnitude has no zeros where zero is its only digit. -/
theorem shortest_exponent_of_zero (tie : Tie) {rank : Nat} (within : rank < rankCount)
    (zero : (shortest tie rank).digits = 0) : (shortest tie rank).exponent = 0 := by
  -- Only zero itself has no digits.
  have first : rank = 0 := by
    by_contra present
    exact shortest_digits tie within present zero
  rw [first, shortest_zero]

/-- The positional form with places is a numeral with as many places as the exponent asks for. -/
theorem exists_positional (negative : Bool) {number : Scientific} (places : number.exponent < 0) :
    ∃ numeral : Json.NumberToken, numeral.Proper ∧
      numeral.chars = signed negative number.positional ∧ numeral.scale = -number.exponent := by
  obtain ⟨count, counted⟩ : ∃ count : Nat, (-number.exponent).toNat = count := ⟨_, rfl⟩
  have length := Numeral.length_padded (count + 1) number.digits
  have digits : ∀ char ∈ Numeral.padded (count + 1) number.digits, Numeral.isDigit char = true :=
    fun _ => Numeral.isDigit_of_mem_padded
  have leading := @Numeral.length_padded_le (count + 1) number.digits
  have layout : number.positional =
      (Numeral.padded (count + 1) number.digits).take
        ((Numeral.padded (count + 1) number.digits).length - count) ++
      '.' :: (Numeral.padded (count + 1) number.digits).drop
        ((Numeral.padded (count + 1) number.digits).length - count) := by
    rw [Scientific.positional, if_neg (by omega), counted]
  rw [layout]
  generalize Numeral.padded (count + 1) number.digits = filled at *
  -- One digit more than there are places stands before the point at least.
  have dropped : (filled.drop (filled.length - count)).length = count := by
    rw [List.length_drop]
    omega
  refine ⟨⟨negative, filled.take (filled.length - count), filled.drop (filled.length - count), none⟩,
    ⟨?_, fun char member => digits char (List.mem_of_mem_take member),
      fun char member => digits char (List.mem_of_mem_drop member), fun zero => ?_⟩, ?_, ?_⟩
  · rw [ne_eq, List.take_eq_nil_iff, not_or]
    exact ⟨by omega, List.ne_nil_of_length_pos (by omega)⟩
  · rw [List.head?_take, if_neg (by omega)] at zero
    have one : filled.length - count = 1 := by
      have := leading zero
      omega
    rw [one, List.take_one, zero]
    rfl
  · have placed : filled.drop (filled.length - count) ≠ [] :=
      List.ne_nil_of_length_pos (by omega)
    cases drop : filled.drop (filled.length - count) with
    | nil => exact absurd drop placed
    | cons first rest =>
      simp [Json.NumberToken.chars, Json.NumberToken.placeChars, Json.NumberToken.exponentChars]
  · rw [Json.NumberToken.scale, dropped]
    simp only [Option.getD_none]
    omega

/-- The form with an exponent is a numeral of one digit before the point. -/
theorem exists_mantissa (negative : Bool) (number : Scientific) :
    ∃ numeral : Json.NumberToken, numeral.Proper ∧
      numeral.chars = signed negative (number.mantissa ++ 'e' ::
        (if number.leading < 0 then ['-'] else ['+']) ++ Numeral.digits number.leading.natAbs) ∧
      numeral.scale = -number.exponent := by
  -- The first digit stands before the point, and the others are the places after it.
  have digits : ∀ char ∈ Numeral.digits number.digits, Numeral.isDigit char = true :=
    fun _ => Numeral.isDigit_of_mem_digits
  cases written : Numeral.digits number.digits with
  | nil => exact absurd written (Numeral.digits_ne_nil _)
  | cons first rest =>
    rw [written, List.forall_mem_cons] at digits
    have mantissa : number.mantissa = first :: Json.NumberToken.placeChars rest := by
      rw [Scientific.mantissa, written]
      cases rest <;> rfl
    have count : digitCount number.digits = rest.length + 1 := by
      rw [digitCount, written, List.length_cons]
    refine ⟨⟨negative, [first], rest, some number.leading⟩,
      ⟨List.cons_ne_nil _ _, by simpa using digits.1, digits.2, fun zero => ?_⟩, ?_, ?_⟩
    · rw [List.head?_cons, Option.some.injEq] at zero
      rw [zero]
    · rw [mantissa, Json.NumberToken.chars, Json.NumberToken.exponentChars]
      split <;> simp
    · rw [Json.NumberToken.scale, Option.getD_some, Scientific.leading, count]
      push_cast
      ring

/-- The JSON form of digits times a power of ten is a numeral. -/
theorem exists_jsonChars (negative : Bool) {number : Scientific}
    (zero : number.digits = 0 → number.exponent = 0) :
    ∃ numeral : Json.NumberToken, numeral.Proper ∧
      numeral.chars = signed negative (jsonChars number) ∧
      (numeral.scale = -number.exponent ∨ numeral.scale = 1) := by
  unfold jsonChars
  split
  · obtain ⟨numeral, proper, chars, scale⟩ := exists_mantissa negative number
    exact ⟨numeral, proper, chars, .inl scale⟩
  split
  · rename_i whole
    -- A whole number keeps one place, which is a zero.
    have positional : number.positional =
        Numeral.digits number.digits ++ List.replicate number.exponent.toNat '0' := by
      rw [Scientific.positional, if_pos whole]
    refine ⟨⟨negative, number.positional, ['0'], none⟩, ⟨?_, ?_, ?_, fun leading => ?_⟩, ?_,
      .inr rfl⟩
    · simp [positional, Numeral.digits_ne_nil]
    · rw [positional]
      refine List.forall_mem_append.2 ⟨fun _ => Numeral.isDigit_of_mem_digits, fun char member => ?_⟩
      rw [(List.mem_replicate.1 member).2]
      decide
    · exact List.forall_mem_singleton.2 (by decide)
    · rw [positional, List.head?_append_of_ne_nil _ (Numeral.digits_ne_nil _)] at leading
      have first := Numeral.head?_digits leading
      rw [positional, first, zero first]
      rfl
    · simp [Json.NumberToken.chars, Json.NumberToken.placeChars, Json.NumberToken.exponentChars]
  · rename_i places
    obtain ⟨numeral, proper, chars, scale⟩ := exists_positional negative (Int.not_le.1 places)
    exact ⟨numeral, proper, chars, .inl scale⟩

/-- A finite double is written as a numeral whose scale is of moderate size. -/
theorem exists_numeral {number : Double} (finite : number.isFinite = true) :
    ∃ numeral : Json.NumberToken, numeral.Proper ∧ numeral.chars = (Json.Number.float number).chars ∧
      -20000 ≤ numeral.scale ∧ numeral.scale ≤ 1074 := by
  -- The shortest digits are written in one of two forms, both of which are numerals.
  cases number with
  | nan | infinite => cases finite
  | finite negative rank =>
    obtain ⟨numeral, proper, chars, scale⟩ := exists_jsonChars negative
      (shortest_exponent_of_zero .toEven rank.isLt)
    have exponent := shortest_exponent .toEven rank.isLt
    refine ⟨numeral, proper, ?_, by omega, by omega⟩
    rw [chars]
    simp [Json.Number.chars, jsonText?]

end Double

end RecordFilter
