import RecordFilter.Number.Decimal.Text
import RecordFilter.Proofs.Numeral.Digits
import RecordFilter.Proofs.Text
import Mathlib.Data.List.TakeDrop
import Mathlib.Data.List.TakeWhile

/-! The texts of numbers with a sign, a point and an exponent, read back as decimals. -/

namespace RecordFilter

/-- A sign adds nothing to the characters of a number but itself. -/
theorem Numeral.not_mem_signed {mark : Char} {run : List Char} (sign : mark ≠ '-')
    (unread : mark ∉ run) (negative : Bool) : mark ∉ signed negative run := by
  -- A minus sign is all that may come in.
  cases negative with
  | false => exact unread
  | true => exact fun member => (List.mem_cons.1 member).elim sign unread

namespace Decimal

open Numeral (signed integerChars isDigit ofDigits not_mem_signed not_mem_of_isDigit)

variable {run whole places mantissa : List Char}

/-- Digits are read as the number that they stand for. -/
theorem readDigits?_eq (present : run ≠ []) (digits : ∀ char ∈ run, isDigit char = true) :
    readDigits? run = some (ofDigits run) := by
  -- After a first digit scores are allowed too, of which there are none.
  cases run with
  | nil => exact absurd rfl present
  | cons first rest =>
    rw [List.forall_mem_cons] at digits
    have others : rest.all (fun char => isDigit char || char == '_') = true := by
      rw [List.all_eq_true]
      exact fun char member => by rw [digits.2 char member, Bool.true_or]
    rw [readDigits?, if_pos ⟨digits.1, others⟩]

/-- What begins with a digit is read without a sign. -/
theorem readSigned?_of_digit {first : Char} {rest : List Char} (digit : isDigit first = true) :
    readSigned? (first :: rest) = (readDigits? (first :: rest)).map fun value => (value : Int) := by
  -- Neither sign is a digit.
  unfold readSigned?
  split
  · rename_i same
    obtain ⟨rfl, -⟩ := List.cons.inj same
    exact absurd digit (by decide)
  · rename_i same
    obtain ⟨rfl, -⟩ := List.cons.inj same
    exact absurd digit (by decide)
  · rfl

/-- Digits are read with the sign before them. -/
theorem readSigned?_signed (negative : Bool) (present : run ≠ [])
    (digits : ∀ char ∈ run, isDigit char = true) :
    readSigned? (signed negative run) =
      some (if negative then -(ofDigits run : Int) else ofDigits run) := by
  -- A minus sign is taken off, and without one the text begins with a digit.
  cases negative with
  | true =>
    rw [signed, if_pos rfl, readSigned?, readDigits?_eq present digits]
    rfl
  | false =>
    rw [signed, if_neg (by decide)]
    cases run with
    | nil => exact absurd rfl present
    | cons first rest =>
      rw [readSigned?_of_digit (digits first List.mem_cons_self), readDigits?_eq present digits]
      rfl

/-- Digits without a point are a whole number. -/
theorem readPoint?_whole (negative : Bool) (present : run ≠ [])
    (digits : ∀ char ∈ run, isDigit char = true) :
    readPoint? (signed negative run) =
      some (if negative then -(ofDigits run : Int) else ofDigits run, 0) := by
  -- Neither the sign nor a digit is a point, so nothing is cut off.
  have whole : Text.cut? ['.'] (signed negative run) = none :=
    Text.cut?_eq_none (not_mem_signed (by decide) (not_mem_of_isDigit (by decide) digits) negative)
  rw [readPoint?, whole]
  simp [readSigned?_signed negative present digits]

/-- The digits on both sides of a point are read as one number, in units of the last place. -/
theorem readPoint?_point (negative : Bool) (present : whole ≠ [])
    (digits : ∀ char ∈ whole ++ places, isDigit char = true) :
    readPoint? (signed negative whole ++ '.' :: places) =
      some (if negative then -(ofDigits (whole ++ places) : Int) else ofDigits (whole ++ places),
        (places.length : Int)) := by
  have wholeDigits : ∀ char ∈ whole, isDigit char = true :=
    fun char member => digits char (List.mem_append_left _ member)
  have cut : Text.cut? ['.'] (signed negative whole ++ '.' :: places) =
      some (signed negative whole, places) :=
    Text.cut?_cons_eq
      (not_mem_signed (by decide) (not_mem_of_isDigit (by decide) wholeDigits) negative)
  -- No place is an underscore, so all of them count.
  have counted : places.filter (· ≠ '_') = places := by
    rw [List.filter_eq_self]
    intro char member
    have digit := digits char (List.mem_append_right _ member)
    rw [decide_eq_true_eq]
    rintro rfl
    exact absurd digit (by decide)
  have joined : signed negative whole ++ places = signed negative (whole ++ places) := by
    cases negative <;> rfl
  rw [readPoint?, cut]
  dsimp only
  rw [joined, counted, readSigned?_signed negative (by simp [present]) digits]
  rfl

/-- A text without a mark has no exponent. -/
theorem splitExponent_none (unmarked : ∀ char ∈ mantissa, (char != 'e' && char != 'E') = true) :
    splitExponent mantissa = (mantissa, none) := by
  -- No character is a mark of the exponent, so all of them are taken.
  simp only [splitExponent, List.span_eq_takeWhile_dropWhile, List.takeWhile_eq_self_iff.2 unmarked,
    List.dropWhile_eq_nil_iff.2 unmarked]

/-- The exponent is what follows the first mark. -/
theorem splitExponent_mark {rest : List Char}
    (unmarked : ∀ char ∈ mantissa, (char != 'e' && char != 'E') = true) :
    splitExponent (mantissa ++ 'e' :: rest) = (mantissa, some rest) := by
  -- The mark is the first of its kind.
  simp only [splitExponent, List.span_eq_takeWhile_dropWhile,
    List.takeWhile_append_of_pos unmarked, List.dropWhile_append_of_pos unmarked]
  simp

/-- The text of a whole number is read as its decimal. -/
theorem read?_integerChars (value : Int) :
    read? (String.ofList (integerChars value)) = some (ofInt value) := by
  -- A sign and digits have neither a mark of the exponent nor a point in them.
  have digits : ∀ char ∈ Numeral.digits value.natAbs, isDigit char = true :=
    fun _ => Numeral.isDigit_of_mem_digits
  have unmarked : ∀ char ∈ integerChars value, (char != 'e' && char != 'E') = true := by
    intro char member
    rw [Bool.and_eq_true, bne_iff_ne, bne_iff_ne]
    constructor
    · rintro rfl
      exact not_mem_signed (by decide) (not_mem_of_isDigit (by decide) digits) _ member
    · rintro rfl
      exact not_mem_signed (by decide) (not_mem_of_isDigit (by decide) digits) _ member
  have exact : (if value < 0 then -(value.natAbs : Int) else value.natAbs) = value := by
    split <;> omega
  unfold read? guard
  rw [String.toList_ofList, splitExponent_none unmarked]
  dsimp only
  rw [integerChars, readPoint?_whole _ (Numeral.digits_ne_nil _) digits, Numeral.ofDigits_digits]
  simp only [decide_eq_true_eq, exact]
  rfl

end Decimal

end RecordFilter
