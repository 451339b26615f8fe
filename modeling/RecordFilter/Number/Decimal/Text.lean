import RecordFilter.Number.Decimal
import RecordFilter.Numeral.Layout
import RecordFilter.Text.Search

/-! Decimal numbers as text, with the scale kept visible in most forms. -/

namespace RecordFilter.Decimal

open Numeral (Scientific)

/-- The magnitude of a decimal other than zero. -/
def magnitudeChars (number : Scientific) : List Char :=
  -- Many zeros after the point or before it give way to an exponent.
  let zeros := -number.exponent - Numeral.digitCount number.digits
  if number.exponent < 0 ∧ 5 < zeros then
    number.mantissa ++ 'E' :: (Numeral.integerChars number.leading)
  else if 15 < number.exponent then
    Numeral.digits number.digits ++ 'e' :: '+' :: Numeral.digits number.exponent.natAbs
  else number.positional

/-- A decimal with its sign; zero is one digit whatever its scale. -/
def text (number : Decimal) : String :=
  if number.digits = 0 then "0"
  else String.ofList (Numeral.signed (number.digits < 0)
    (magnitudeChars ⟨number.digits.natAbs, -number.scale⟩))

/-- Digits among which underscores may stand after the first. -/
def readDigits? : List Char → Option Nat
  | first :: rest =>
    if Numeral.isDigit first ∧ rest.all (fun char => Numeral.isDigit char || char == '_') then
      some (Numeral.ofDigits (first :: rest))
    else none
  | [] => none

/-- Digits with an optional sign. -/
def readSigned? : List Char → Option Int
  | '-' :: rest => (readDigits? rest).map fun value => -(value : Int)
  | '+' :: rest => (readDigits? rest).map fun value => value
  | chars => (readDigits? chars).map fun value => value

/-- A whole number with an optional sign and no underscores. -/
def readExponent? (chars : List Char) : Option Int :=
  if chars.contains '_' then none else readSigned? chars

/-- The digits of a decimal and the number of places that stand after its point. -/
def readPoint? (chars : List Char) : Option (Int × Int) :=
  -- The point is taken out before the rest is read, so a sign may also stand right after it.
  match Text.cut? ['.'] chars with
  | none => (readSigned? chars).map fun value => (value, 0)
  | some (whole, places) =>
    (readSigned? (whole ++ places)).map fun value =>
      (value, (places.filter (· ≠ '_')).length)

/-- The mantissa of a number, and the exponent after the first mark for one. -/
def splitExponent (chars : List Char) : List Char × Option (List Char) :=
  let (mantissa, rest) := chars.span fun char => char != 'e' && char != 'E'
  (mantissa, match rest with
    | [] => none
    | _ :: exponent => some exponent)

/-- Reads a decimal, whose scale has to fit a signed 64-bit integer. -/
def read? (text : String) : Option Decimal := do
  let (mantissa, exponentChars) := splitExponent text.toList
  let (digits, places) ← readPoint? mantissa
  let exponent ← match exponentChars with
    | none => some 0
    | some chars => readExponent? chars
  let scale := places - exponent
  guard (Int64.minValue.toInt ≤ scale ∧ scale ≤ Int64.maxValue.toInt)
  return ⟨digits, scale⟩

end RecordFilter.Decimal
