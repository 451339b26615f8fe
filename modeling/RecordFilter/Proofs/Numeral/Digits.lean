import RecordFilter.Numeral.Digits
import Mathlib.Algebra.Group.Nat.Defs
import Mathlib.Data.List.Basic
import Mathlib.Data.List.Induction

/-! Decimal digits of a number, which are digits and stand for that number again. -/

namespace RecordFilter.Numeral

/-- A character is a digit here when it is one of the ten of ASCII. -/
theorem digit?_of_isDigit {char : Char} (digit : char.isDigit = true) :
    digit? char = some (char.toNat - '0'.toNat) := by
  -- Both tests are for codes between those of zero and nine.
  have within : '0' ≤ char ∧ char ≤ '9' := by
    simpa [Char.isDigit, Char.le_def, UInt32.le_iff_toNat_le] using digit
  rw [digit?, if_pos within]

/-- The digits of a number are digits. -/
theorem isDigit_of_mem_digits {char : Char} {value : Nat} (member : char ∈ digits value) :
    isDigit char = true := by
  have digit : char.isDigit = true := Nat.isDigit_of_mem_toDigits (by decide) (by decide) member
  rw [isDigit, digit?_of_isDigit digit, Option.isSome_some]

/-- What is no digit stands in no run of digits. -/
theorem not_mem_of_isDigit {mark : Char} {run : List Char} (other : isDigit mark = false)
    (every : ∀ char ∈ run, isDigit char = true) : mark ∉ run := by
  intro member
  rw [every mark member] at other
  cases other

/-- What is no digit does not stand among the digits of a number. -/
theorem not_mem_digits {mark : Char} (other : isDigit mark = false) (value : Nat) :
    mark ∉ digits value :=
  not_mem_of_isDigit other fun _ => isDigit_of_mem_digits

/-- A number has at least one digit. -/
theorem digits_ne_nil (value : Nat) : digits value ≠ [] :=
  Nat.toDigits_ne_nil

/-- Digits stand for the number that they make up from the first to the last. -/
theorem ofDigits_eq_ofDigitChars {chars : List Char} (every : ∀ char ∈ chars, char.isDigit = true) :
    ofDigits chars = Nat.ofDigitChars 10 chars 0 := by
  -- The number grows from the left, so it is kept general along the digits.
  suffices general : ∀ value, (chars.filterMap digit?).foldl (fun value digit => value * 10 + digit)
      value = Nat.ofDigitChars 10 chars value from general 0
  induction chars with
  | nil => exact fun value => rfl
  | cons char rest ih =>
    intro value
    rw [List.forall_mem_cons] at every
    rw [List.filterMap_cons_some (digit?_of_isDigit every.1), List.foldl_cons, ih every.2,
      Nat.ofDigitChars_cons, Nat.mul_comm]

/-- The digits of a number stand for that number. -/
theorem ofDigits_digits (value : Nat) : ofDigits (digits value) = value := by
  -- The library's reader gives back what its printer wrote.
  rw [digits, ofDigits_eq_ofDigitChars fun _ => Nat.isDigit_of_mem_toDigits (by decide) (by decide)]
  exact Nat.ofDigitChars_ten_toDigits

/-- The ten digits of ASCII are all the decimal digits there are. -/
theorem isDigit_eq (char : Char) : isDigit char = char.isDigit := by
  -- The two tests bound the same codes, one as characters and one as numbers.
  rw [Bool.eq_iff_iff]
  constructor
  · intro digit
    have within : '0' ≤ char ∧ char ≤ '9' := by
      refine Decidable.byContradiction fun outside => ?_
      rw [isDigit, digit?, if_neg outside] at digit
      cases digit
    simpa [Char.isDigit, Char.le_def, UInt32.le_iff_toNat_le] using within
  · intro digit
    rw [isDigit, digit?_of_isDigit digit, Option.isSome_some]

/-- A digit is below ten and is written for its value. -/
theorem digitChar_of_isDigit {char : Char} (digit : char.isDigit = true) :
    char.toNat - '0'.toNat < 10 ∧ Nat.digitChar (char.toNat - '0'.toNat) = char := by
  -- There are few codes of digits, and each of them is computed.
  have codes : 48 ≤ char.toNat ∧ char.toNat ≤ 57 := by
    simpa [Char.isDigit, UInt32.le_iff_toNat_le] using digit
  have zero : '0'.toNat = 48 := rfl
  have written : ∀ code < 58, 48 ≤ code → Nat.digitChar (code - 48) = Char.ofNat code := by decide
  refine ⟨by omega, ?_⟩
  rw [zero, written _ (by omega) codes.1, Char.ofNat_toNat]

/-- Without a zero in front, digits are those of the number that they stand for. -/
theorem digits_ofDigits {chars : List Char} (present : chars ≠ [])
    (every : ∀ char ∈ chars, char.isDigit = true) (lead : chars.head? ≠ some '0') :
    digits (ofDigits chars) = chars := by
  rw [ofDigits_eq_ofDigitChars every, digits]
  -- The last digit is the remainder by ten, and the others are those of the quotient.
  induction chars using List.reverseRecOn with
  | nil => exact absurd rfl present
  | append_singleton front last ih =>
    rw [List.forall_mem_append, List.forall_mem_singleton] at every
    obtain ⟨others, digit⟩ := every
    obtain ⟨small, single⟩ := digitChar_of_isDigit digit
    have value : Nat.ofDigitChars 10 (front ++ [last]) 0 =
        10 * Nat.ofDigitChars 10 front 0 + (last.toNat - '0'.toNat) := by
      simp [Nat.ofDigitChars]
    rw [value]
    by_cases alone : front = []
    · subst alone
      rw [show Nat.ofDigitChars 10 [] 0 = 0 from rfl, Nat.mul_zero, Nat.zero_add,
        Nat.toDigits_of_lt_base small, single, List.nil_append]
    · have leads : front.head? ≠ some '0' := by
        rwa [List.head?_append_of_ne_nil _ alone] at lead
      have before := ih alone others leads
      have positive : 0 < Nat.ofDigitChars 10 front 0 := by
        rw [Nat.pos_iff_ne_zero]
        intro zero
        rw [zero] at before
        rw [← before] at leads
        exact leads rfl
      rw [← Nat.toDigits_append_toDigits (by decide) positive small, before,
        Nat.toDigits_of_lt_base small, single]

/-- A number below a power of ten has no more digits than that. -/
theorem digitCount_le {value count : Nat} (positive : 0 < count) (small : value < 10 ^ count) :
    digitCount value ≤ count :=
  (Nat.length_toDigits_le_iff (by decide) positive).2 small

/-- Digits with zeros in front are digits. -/
theorem isDigit_of_mem_padded {char : Char} {width value : Nat}
    (member : char ∈ padded width value) : isDigit char = true := by
  -- A character is one of the zeros in front or one of the digits.
  rw [padded, List.mem_append, List.mem_replicate] at member
  rcases member with ⟨-, rfl⟩ | member
  · decide
  · exact isDigit_of_mem_digits member

/-- What is no digit does not stand among digits with zeros in front. -/
theorem not_mem_padded {mark : Char} (other : isDigit mark = false) (width value : Nat) :
    mark ∉ padded width value :=
  not_mem_of_isDigit other fun _ => isDigit_of_mem_padded

/-- Zeros in front fill a number up to its width. -/
theorem length_padded (width value : Nat) :
    (padded width value).length = max width (digitCount value) := by
  -- There are as many zeros as the digits leave room for, and none if they leave none.
  rw [padded, List.length_append, List.length_replicate]
  show width - digitCount value + digitCount value = _
  omega

/-- A number that has room is filled up to its width exactly. -/
theorem length_padded_eq {width value : Nat} (positive : 0 < width) (small : value < 10 ^ width) :
    (padded width value).length = width := by
  -- Digits below the power of ten leave room for zeros, or fill the width.
  have room := digitCount_le positive small
  rw [length_padded]
  omega

/-- Zeros in front do not change the number that digits stand for. -/
theorem ofDigits_padded (width value : Nat) : ofDigits (padded width value) = value := by
  -- A zero in front leaves what has been read at zero.
  have zeros (count : Nat) : ofDigits (List.replicate count '0' ++ digits value) = value := by
    induction count with
    | zero => exact ofDigits_digits value
    | succ count ih => exact ih
  exact zeros _

end RecordFilter.Numeral
