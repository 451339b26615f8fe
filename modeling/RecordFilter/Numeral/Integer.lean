import RecordFilter.Numeral.Digits

/-! Whole numbers read from text within bounds. -/

namespace RecordFilter.Numeral

/-- Why a text is no whole number within bounds. -/
inductive IntegerError
  | empty
  | invalidDigit
  | tooLarge
  | tooSmall
  deriving DecidableEq, Repr

/-- The wording of an integer error. -/
def IntegerError.message : IntegerError → String
  | .empty => "cannot parse integer from empty string"
  | .invalidDigit => "invalid digit found in string"
  | .tooLarge => "number too large to fit in target type"
  | .tooSmall => "number too small to fit in target type"

/-- Reads digits onto a value; the first character that is no digit or exceeds the limit decides. -/
def readBelow (limit : Nat) (exceeded : IntegerError) : Nat → List Char → Except IntegerError Nat
  -- A character is judged as a digit before its effect on the value is.
  | value, [] => .ok value
  | value, char :: rest =>
    match digit? char with
    | none => .error .invalidDigit
    | some digit =>
      if limit < value * 10 + digit then .error exceeded
      else readBelow limit exceeded (value * 10 + digit) rest

/-- Reads digits of which there must be at least one. -/
def readSome (limit : Nat) (exceeded : IntegerError) : List Char → Except IntegerError Nat
  | [] => .error .invalidDigit
  | chars => readBelow limit exceeded 0 chars

/-- Reads a signed 64-bit integer with an optional sign. -/
def readInt64 (text : String) : Except IntegerError Int64 :=
  -- A sign alone is judged as a character that is no digit.
  match text.toList with
  | [] => .error .empty
  | '-' :: rest => (readSome (Nat.pow 2 63) .tooSmall rest).map fun value => Int64.ofInt (-value)
  | '+' :: rest => (readSome (Nat.pow 2 63 - 1) .tooLarge rest).map Int64.ofNat
  | chars => (readSome (Nat.pow 2 63 - 1) .tooLarge chars).map Int64.ofNat

/-- Reads an unsigned 64-bit integer, before which a plus sign may stand. -/
def readUInt64 (text : String) : Except IntegerError UInt64 :=
  -- A minus sign is no digit here.
  match text.toList with
  | [] => .error .empty
  | '+' :: rest => (readSome (UInt64.size - 1) .tooLarge rest).map UInt64.ofNat
  | chars => (readSome (UInt64.size - 1) .tooLarge chars).map UInt64.ofNat

/-- The 64-bit integer of a value within the signed range. -/
def int64? (value : Int) : Option Int64 :=
  if Int64.minValue.toInt ≤ value ∧ value ≤ Int64.maxValue.toInt then some (Int64.ofInt value) else none

end RecordFilter.Numeral
