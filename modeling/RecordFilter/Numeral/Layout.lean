import RecordFilter.Numeral.Digits

/-! Digits times a power of ten, and the ways to lay them out as text. -/

namespace RecordFilter.Numeral

/-- A whole number of units, each of which is a power of ten. -/
structure Scientific where
  digits : Nat
  exponent : Int
  deriving DecidableEq, Repr

namespace Scientific

/-- Moves zeros at the end of the digits into the exponent, as many as the fuel allows. -/
def trimmedBy : Nat → Scientific → Scientific
  | 0, number => number
  | fuel + 1, number =>
    if number.digits % 10 = 0 then trimmedBy fuel ⟨number.digits / 10, number.exponent + 1⟩
    else number

/-- The same magnitude without zeros at the end of its digits. -/
def trimmed (number : Scientific) : Scientific :=
  -- There are no more zeros than digits.
  if number.digits = 0 then number else trimmedBy (digitCount number.digits) number

/-- The exponent of ten at the leading digit. -/
def leading (number : Scientific) : Int :=
  digitCount number.digits - 1 + number.exponent

/-- The digits in full, with a point only where the exponent asks for places after it. -/
def positional (number : Scientific) : List Char :=
  -- Zeros fill the places between the digits and the point on either side.
  if 0 ≤ number.exponent then
    Numeral.digits number.digits ++ List.replicate number.exponent.toNat '0'
  else
    let places := (-number.exponent).toNat
    let filled := padded (places + 1) number.digits
    filled.take (filled.length - places) ++ '.' :: filled.drop (filled.length - places)

/-- The first digit, and the others after a point if there are any. -/
def mantissa (number : Scientific) : List Char :=
  match Numeral.digits number.digits with
  | first :: second :: rest => first :: '.' :: second :: rest
  | few => few

end Scientific

/-- A minus sign before the characters of a negative number. -/
def signed (negative : Bool) (chars : List Char) : List Char :=
  if negative then '-' :: chars else chars

/-- A whole number in decimal digits, with a sign when it is negative. -/
def integerChars (value : Int) : List Char :=
  signed (value < 0) (digits value.natAbs)

/-- A whole number as text. -/
def integerText (value : Int) : String :=
  String.ofList (integerChars value)

end RecordFilter.Numeral
