import RecordFilter.Json.Numeral
import RecordFilter.Number.Decimal.Text
import RecordFilter.Proofs.Number.Text
import Mathlib.Data.List.Basic

/-! Numerals as texts: each is read back as itself whatever follows it, and as a decimal of the same digits. -/

namespace RecordFilter

namespace Numeral

/-- The characters do not begin with a decimal digit. -/
def NoDigit (chars : List Char) : Prop :=
  ∀ char ∈ chars.head?, isDigit char = false

/-- A run of digits ends where something else begins. -/
theorem takeWhile_digits {run rest : List Char} (digits : ∀ char ∈ run, isDigit char = true)
    (ends : NoDigit rest) : (run ++ rest).takeWhile isDigit = run := by
  -- The run is taken as a whole, and what follows it does not begin with a digit.
  rw [List.takeWhile_append_of_pos digits]
  cases rest with
  | nil => simp
  | cons char rest => simp [ends char rfl]

/-- What follows a run of digits is what is left after it. -/
theorem dropWhile_digits {run rest : List Char} (digits : ∀ char ∈ run, isDigit char = true)
    (ends : NoDigit rest) : (run ++ rest).dropWhile isDigit = rest := by
  -- The run is passed over as a whole, and what follows it does not begin with a digit.
  rw [List.dropWhile_append_of_pos digits]
  cases rest with
  | nil => rfl
  | cons char rest => simp [ends char rfl]

/-- Only zero is written with a zero in front. -/
theorem head?_digits {value : Nat} (zero : (digits value).head? = some '0') : value = 0 := by
  -- The last digit is taken off, and the others are those of a tenth of the number.
  induction value using Nat.strong_induction_on with
  | _ value ih =>
    rcases Nat.lt_or_ge value 10 with small | large
    · have single : ∀ value < 10, Nat.digitChar value = '0' → value = 0 := by decide
      rw [digits, Nat.toDigits_of_lt_base small, List.head?_cons, Option.some.injEq] at zero
      exact single value small zero
    · rw [digits, Nat.toDigits_of_base_le (by decide) large,
        List.head?_append_of_ne_nil _ Nat.toDigits_ne_nil] at zero
      have less := ih (value / 10) (by omega) zero
      omega

/-- A 64-bit integer is within the bounds of one. -/
theorem int64?_toInt (value : Int64) : int64? value.toInt = some value := by
  rw [int64?, if_pos ⟨value.minValue_le_toInt, value.toInt_le⟩, Int64.ofInt_toInt]

end Numeral

/-- Digits that are read one after another stay on the number as long as it fits 64 bits. -/
theorem Json.gathered_eq {run : List Char} (digits : ∀ char ∈ run, char.isDigit = true) {value : Nat}
    (fits : Nat.ofDigitChars 10 run value < UInt64.size) :
    gathered value run = (Nat.ofDigitChars 10 run value, []) := by
  -- The number only grows with each digit, so it fits after every one of them.
  induction run generalizing value with
  | nil => rfl
  | cons char rest ih =>
    rw [List.forall_mem_cons] at digits
    rw [Nat.ofDigitChars_cons] at fits ⊢
    have next : value * 10 + Numeral.ofDigits [char] = 10 * value + (char.toNat - '0'.toNat) := by
      rw [Numeral.ofDigits_eq_ofDigitChars (by simpa using digits.1), Nat.ofDigitChars_cons]
      simp [Nat.mul_comm]
    have grows : 10 * value + (char.toNat - '0'.toNat) < UInt64.size := by
      rw [Nat.ofDigitChars_eq_ofDigitChars_zero] at fits
      have : 1 * (10 * value + (char.toNat - '0'.toNat)) ≤
          10 ^ rest.length * (10 * value + (char.toNat - '0'.toNat)) :=
        Nat.mul_le_mul_right _ (Nat.one_le_pow _ _ (by decide))
      omega
    rw [gathered, next, if_pos grows]
    exact ih digits.2 fits

namespace Json

/-- What may stand after a value in a text: nothing, a comma, or the end of an array or object. -/
def Ends (rest : List Char) : Prop :=
  ∀ char ∈ rest.head?, char = ',' ∨ char = ']' ∨ char = '}'

/-- A value may end the text. -/
@[simp] theorem ends_nil : Ends [] := by
  simp [Ends]

/-- A comma, a bracket or a brace may follow a value. -/
@[simp] theorem ends_cons {char : Char} {rest : List Char} :
    Ends (char :: rest) ↔ char = ',' ∨ char = ']' ∨ char = '}' := by
  simp [Ends]

/-- What follows a value does not go on with its digits. -/
theorem Ends.noDigit {rest : List Char} (ends : Ends rest) : Numeral.NoDigit rest := by
  intro char first
  rcases ends char first with rfl | rfl | rfl <;> decide

namespace NumberToken

/-- The places after a point, unless there are none. -/
def placeChars : List Char → List Char
  | [] => []
  | places => '.' :: places

/-- An exponent after its mark, with a sign in any case. -/
def exponentChars : Option Int → List Char
  | none => []
  | some value => 'e' :: (if value < 0 then '-' else '+') :: Numeral.digits value.natAbs

/-- The characters of a numeral. -/
def chars (numeral : NumberToken) : List Char :=
  Numeral.signed numeral.negative
    (numeral.whole ++ (placeChars numeral.places ++ exponentChars numeral.exponent))

/-- The numeral has digits before its point, of which a zero comes first only if it is alone. -/
structure Proper (numeral : NumberToken) : Prop where
  whole : numeral.whole ≠ []
  wholeDigits : ∀ char ∈ numeral.whole, Numeral.isDigit char = true
  placeDigits : ∀ char ∈ numeral.places, Numeral.isDigit char = true
  leading : numeral.whole.head? = some '0' → numeral.whole = ['0']

/-- The digits of a number are the whole part of a numeral. -/
theorem Proper.digits (negative : Bool) (value : Nat) :
    Proper ⟨negative, Numeral.digits value, [], none⟩ where
  whole := Numeral.digits_ne_nil value
  wholeDigits _ := Numeral.isDigit_of_mem_digits
  placeDigits := by simp
  leading zero := by
    obtain rfl := Numeral.head?_digits zero
    rfl

variable {numeral : NumberToken} {rest : List Char}

/-- The whole part ends before what is no digit. -/
theorem Proper.wholeDigits?_append (proper : numeral.Proper) (ends : Numeral.NoDigit rest) :
    wholeDigits? (numeral.whole ++ rest) = some (numeral.whole, rest) := by
  unfold wholeDigits?
  split
  · rename_i after same
    -- A zero in front is the whole part.
    cases whole : numeral.whole with
    | nil => exact absurd whole proper.whole
    | cons first others =>
      rw [whole, List.cons_append, List.cons.injEq] at same
      have alone := proper.leading (by rw [whole, same.1]; rfl)
      rw [whole] at alone
      obtain ⟨rfl, rfl⟩ := List.cons.inj alone
      simp [← same.2]
  · rw [Numeral.takeWhile_digits proper.wholeDigits ends,
      Numeral.dropWhile_digits proper.wholeDigits ends, if_neg (by simpa using proper.whole)]

/-- The places end before what is neither a digit nor a point. -/
theorem Proper.placeDigits?_append (proper : numeral.Proper) (ends : Numeral.NoDigit rest)
    (point : rest.head? ≠ some '.') :
    placeDigits? (placeChars numeral.places ++ rest) = some (numeral.places, rest) := by
  -- Without places nothing is written, and what follows does not begin with a point.
  cases places : numeral.places with
  | nil =>
    rw [placeChars, List.nil_append]
    unfold placeDigits?
    split
    · exact absurd rfl point
    · rfl
  | cons first others =>
    have digits := proper.placeDigits
    rw [places] at digits
    show placeDigits? ('.' :: ((first :: others) ++ rest)) = _
    rw [placeDigits?, Numeral.takeWhile_digits digits ends, Numeral.dropWhile_digits digits ends]
    rfl

/-- The exponent ends where the numeral does. -/
theorem exponent?_append (exponent : Option Int) (ends : Ends rest) :
    exponent? (exponentChars exponent ++ rest) = some (exponent, rest) := by
  cases exponent with
  | none =>
    -- No mark announces an exponent.
    rw [exponentChars, List.nil_append]
    cases rest with
    | nil => rfl
    | cons char rest =>
      have unmarked : ¬(char = 'e' ∨ char = 'E') := by
        rcases ends_cons.1 ends with rfl | rfl | rfl <;> decide
      unfold exponent?
      exact if_neg unmarked
  | some value =>
    have read (negative : Bool) :
        exponentDigits? negative (Numeral.digits value.natAbs ++ rest) =
          some (some (if negative then -(value.natAbs : Int) else value.natAbs), rest) := by
      have digits : ∀ char ∈ Numeral.digits value.natAbs, Numeral.isDigit char = true :=
        fun _ => Numeral.isDigit_of_mem_digits
      rw [exponentDigits?, Numeral.takeWhile_digits digits ends.noDigit,
        Numeral.dropWhile_digits digits ends.noDigit,
        if_neg (by simpa using Numeral.digits_ne_nil value.natAbs), Numeral.ofDigits_digits]
    rcases Int.lt_or_le value 0 with negative | natural
    · rw [exponentChars, if_pos negative, List.cons_append, List.cons_append, exponent?,
        if_pos (.inl rfl)]
      simp only [read, if_true]
      rw [Int.ofNat_natAbs_of_nonpos (Int.le_of_lt negative), Int.neg_neg]
    · rw [exponentChars, if_neg (Int.not_lt.2 natural), List.cons_append, List.cons_append, exponent?,
        if_pos (.inl rfl)]
      simp only [read]
      simp [Int.natAbs_of_nonneg natural]

/-- The exponent, or what follows the numeral, does not go on with its digits or its point. -/
theorem noDigit_exponentChars (exponent : Option Int) (ends : Ends rest) :
    Numeral.NoDigit (exponentChars exponent ++ rest) ∧
      (exponentChars exponent ++ rest).head? ≠ some '.' := by
  -- An exponent begins with its mark, and without one the numeral ends.
  cases exponent with
  | none =>
    refine ⟨ends.noDigit, fun point => ?_⟩
    rcases ends '.' point with same | same | same <;> exact absurd same (by decide)
  | some value => simp [exponentChars, Numeral.NoDigit, Numeral.isDigit, Numeral.digit?]

/-- A numeral without its sign is read whatever follows it. -/
theorem Proper.numeral?_append (proper : numeral.Proper) (ends : Ends rest) :
    numeral? numeral.negative
        (numeral.whole ++ (placeChars numeral.places ++ exponentChars numeral.exponent) ++ rest) =
      some (numeral, rest) := by
  obtain ⟨noDigit, point⟩ := noDigit_exponentChars numeral.exponent ends
  -- The places are announced by a point, which is no digit either.
  have noDigit' : Numeral.NoDigit
      (placeChars numeral.places ++ (exponentChars numeral.exponent ++ rest)) := by
    cases numeral.places with
    | nil => exact noDigit
    | cons => simp [placeChars, Numeral.NoDigit, Numeral.isDigit, Numeral.digit?]
  rw [List.append_assoc, List.append_assoc, numeral?, proper.wholeDigits?_append noDigit']
  simp only [Option.bind_eq_bind, Option.bind_some, proper.placeDigits?_append noDigit point,
    exponent?_append _ ends]
  rfl

/-- What begins with a digit is read as a number without a sign. -/
theorem token?_of_digit {first : Char} (digit : Numeral.isDigit first = true) :
    token? (first :: rest) =
      (numeral? false (first :: rest)).map fun (numeral, after) => (.number numeral, after) := by
  -- No other token begins with a digit.
  unfold token?
  split
  case h_12 => rfl
  all_goals
    rename_i same
    obtain ⟨rfl, -⟩ := List.cons.inj same
    exact absurd digit (by decide)

/-- A numeral is one token, whatever follows it. -/
theorem Proper.token?_append (proper : numeral.Proper) (ends : Ends rest) :
    token? (numeral.chars ++ rest) = some (.number numeral, rest) := by
  -- A numeral is told from other tokens by its sign or by its first digit.
  have read := proper.numeral?_append ends
  cases sign : numeral.negative with
  | true =>
    rw [sign] at read
    rw [chars, sign, Numeral.signed, if_pos rfl, List.cons_append, token?, read]
    rfl
  | false =>
    rw [sign] at read
    rw [chars, sign, Numeral.signed, if_neg (by decide)]
    cases whole : numeral.whole with
    | nil => exact absurd whole proper.whole
    | cons first others =>
      have digit := proper.wholeDigits first (by simp [whole])
      rw [whole] at read
      simp only [List.cons_append] at read ⊢
      rw [token?_of_digit digit, read]
      rfl

/-- The numeral of a whole number. -/
def ofInt (value : Int) : NumberToken :=
  ⟨value < 0, Numeral.digits value.natAbs, [], none⟩

/-- A whole number is written as its numeral. -/
@[simp] theorem chars_ofInt (value : Int) : (ofInt value).chars = Numeral.integerChars value := by
  simp [chars, ofInt, placeChars, exponentChars, Numeral.integerChars]

/-- The numeral of a whole number is a proper one. -/
theorem proper_ofInt (value : Int) : (ofInt value).Proper :=
  .digits _ value.natAbs

/-- The numeral of a 64-bit integer stands for that integer. -/
theorem number?_ofInt (value : Int64) : (ofInt value.toInt).number? = some (.integer value.toInt) := by
  have least := value.le_toInt
  have greatest := value.toInt_lt
  have size : value.toInt.natAbs ≤ Nat.pow 2 63 := by
    show _ ≤ 9223372036854775808
    omega
  have digits : ∀ char ∈ Numeral.digits value.toInt.natAbs, char.isDigit = true :=
    fun _ => Nat.isDigit_of_mem_toDigits (by decide) (by decide)
  -- The digits fit even without a sign, so none of them is counted as a zero or cut off.
  have read : Nat.ofDigitChars 10 (Numeral.digits value.toInt.natAbs) 0 = value.toInt.natAbs :=
    Nat.ofDigitChars_ten_toDigits
  have whole : gathered 0 (Numeral.digits value.toInt.natAbs) = (value.toInt.natAbs, []) := by
    rw [gathered_eq digits (by rw [read]; exact Nat.lt_of_le_of_lt size (by decide)), read]
  have scientific : (ofInt value.toInt).scientific = ⟨value.toInt.natAbs, 0⟩ := by
    simp [NumberToken.scientific, ofInt, whole, gathered]
  rcases Int.lt_or_le value.toInt 0 with negative | natural
  · have some : value.toInt.natAbs ≠ 0 := by omega
    rw [number?, scientific]
    simp [ofInt, isWhole, negative, some, size, Int.ofNat_natAbs_of_nonpos (Int.le_of_lt negative)]
  · rw [number?, scientific]
    simp [ofInt, isWhole, Int.not_lt.2 natural, Int.natAbs_of_nonneg natural]

/-- The number of places after the last digit that counts, or before it if negative. -/
def scale (numeral : NumberToken) : Int :=
  numeral.places.length - numeral.exponent.getD 0

/-- The exponent of a numeral is read as that of a decimal. -/
theorem readExponent?_eq (value : Int) :
    Decimal.readExponent? ((if value < 0 then '-' else '+') :: Numeral.digits value.natAbs) =
      some value := by
  -- Neither the sign nor a digit is a score, so nothing is skipped among the digits.
  have digits : ∀ char ∈ Numeral.digits value.natAbs, Numeral.isDigit char = true :=
    fun _ => Numeral.isDigit_of_mem_digits
  have scored : ((if value < 0 then '-' else '+') :: Numeral.digits value.natAbs).contains '_' =
      false := by
    rw [List.contains_eq_mem, decide_eq_false_iff_not, List.mem_cons, not_or]
    refine ⟨by split <;> decide, fun member => ?_⟩
    exact absurd (digits '_' member) (by decide)
  have read := Decimal.readDigits?_eq (Numeral.digits_ne_nil value.natAbs) digits
  rw [Numeral.ofDigits_digits] at read
  rw [Decimal.readExponent?, scored, if_neg (by decide)]
  rcases Int.lt_or_le value 0 with negative | natural
  · rw [if_pos negative, Decimal.readSigned?, read]
    show some (-(value.natAbs : Int)) = some value
    rw [Int.ofNat_natAbs_of_nonpos (Int.le_of_lt negative), Int.neg_neg]
  · rw [if_neg (Int.not_lt.2 natural), Decimal.readSigned?, read]
    exact congrArg some (Int.natAbs_of_nonneg natural)

/-- What stands before the exponent is read as the digits and the number of places. -/
theorem Proper.readPoint?_eq (proper : numeral.Proper) :
    ∃ digits, Decimal.readPoint? (Numeral.signed numeral.negative
      (numeral.whole ++ placeChars numeral.places)) = some (digits, (numeral.places.length : Int)) := by
  -- The point is found by itself, and all around it are digits.
  cases places : numeral.places with
  | nil =>
    rw [placeChars, List.append_nil]
    exact ⟨_, Decimal.readPoint?_whole _ proper.whole proper.wholeDigits⟩
  | cons first rest =>
    have every : ∀ char ∈ numeral.whole ++ (first :: rest), Numeral.isDigit char = true := by
      rw [← places]
      exact List.forall_mem_append.2 ⟨proper.wholeDigits, proper.placeDigits⟩
    have same : Numeral.signed numeral.negative (numeral.whole ++ placeChars (first :: rest)) =
        Numeral.signed numeral.negative numeral.whole ++ '.' :: (first :: rest) := by
      cases numeral.negative <;> rfl
    exact ⟨_, same ▸ Decimal.readPoint?_point _ proper.whole every⟩

/-- No mark of an exponent stands before the exponent. -/
theorem Proper.unmarked (proper : numeral.Proper) :
    ∀ char ∈ Numeral.signed numeral.negative (numeral.whole ++ placeChars numeral.places),
      (char != 'e' && char != 'E') = true := by
  -- In front of the exponent there are a sign, digits and a point at most.
  intro char member
  have kind : char = '-' ∨ char = '.' ∨ Numeral.isDigit char = true := by
    cases places : numeral.places with
    | nil => cases sign : numeral.negative <;> grind [Numeral.signed, placeChars, proper.wholeDigits]
    | cons first rest =>
      cases sign : numeral.negative <;>
        grind [Numeral.signed, placeChars, proper.wholeDigits, proper.placeDigits]
  rcases kind with rfl | rfl | digit
  · decide
  · decide
  · rw [Bool.and_eq_true, bne_iff_ne, bne_iff_ne]
    constructor <;> (rintro rfl; exact absurd digit (by decide))

/-- A numeral is read as a decimal of its digits, if their scale is not out of bounds. -/
theorem Proper.read?_chars (proper : numeral.Proper)
    (fits : Int64.minValue.toInt ≤ numeral.scale ∧ numeral.scale ≤ Int64.maxValue.toInt) :
    ∃ digits, Decimal.read? (String.ofList numeral.chars) = some ⟨digits, numeral.scale⟩ := by
  -- The exponent is cut off first, and the point is then taken out of the rest.
  obtain ⟨digits, read⟩ := proper.readPoint?_eq
  refine ⟨digits, ?_⟩
  have parts : numeral.chars = Numeral.signed numeral.negative
      (numeral.whole ++ placeChars numeral.places) ++ exponentChars numeral.exponent := by
    rw [chars, ← List.append_assoc]
    cases numeral.negative <;> rfl
  unfold Decimal.read? guard
  rw [String.toList_ofList, parts]
  unfold scale at fits ⊢
  cases exponent : numeral.exponent with
  | none =>
    rw [exponent, Option.getD_none] at fits
    rw [exponentChars, List.append_nil, Decimal.splitExponent_none proper.unmarked]
    simp only [read, Option.bind_eq_bind, Option.bind_some, Option.pure_def, if_pos fits]
    rfl
  | some value =>
    rw [exponent, Option.getD_some] at fits
    rw [exponentChars, Decimal.splitExponent_mark proper.unmarked]
    simp only [read, readExponent?_eq, Option.bind_eq_bind, Option.bind_some, Option.pure_def,
      if_pos fits]
    rfl

end NumberToken

end Json

end RecordFilter
