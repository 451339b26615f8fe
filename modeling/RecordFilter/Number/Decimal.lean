import RecordFilter.Numeral.Digits

/-! Decimal numbers of any size, which keep the scale they were written with. -/

namespace RecordFilter

/-- A whole number of units, each of which is ten to the power of minus the scale. -/
structure Decimal where
  digits : Int
  scale : Int
  deriving DecidableEq, Repr

namespace Decimal

/-- A whole number as a decimal. -/
def ofInt (value : Int) : Decimal :=
  ⟨value, 0⟩

/-- The exponent of ten just above the leading digit of a decimal other than zero. -/
def top (number : Decimal) : Int :=
  Numeral.digitCount number.digits.natAbs - number.scale

/-- The digits of a magnitude brought to a finer scale. -/
def magnitudeAt (scale : Int) (number : Decimal) : Nat :=
  -- Only a scale at least as fine as the number's own is asked for.
  number.digits.natAbs * Nat.pow 10 (scale - number.scale).toNat

/-- Orders two magnitudes other than zero. -/
def compareMagnitude (left right : Decimal) : Ordering :=
  -- Where the leading digits stand at the same place, the scales differ by no more than the
  -- digit counts do, so bringing both to the finer one stays within the size of the digits.
  (compare left.top right.top).then
    (let scale := max left.scale right.scale
     compare (left.magnitudeAt scale) (right.magnitudeAt scale))

/-- Orders decimals by value, whatever their scales. -/
def compare (left right : Decimal) : Ordering :=
  -- The signs decide unless they agree and are not zero.
  (Ord.compare left.digits.sign right.digits.sign).then <|
    if left.digits = 0 then .eq
    else if left.digits < 0 then right.compareMagnitude left
    else left.compareMagnitude right

end Decimal

end RecordFilter
