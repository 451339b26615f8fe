import RecordFilter.Json.Basic
import RecordFilter.Json.Token
import RecordFilter.Number.Double.Scaling
import RecordFilter.Numeral.Layout

/-! What the numerals of a JSON text stand for. -/

namespace RecordFilter.Json

/-- A number with more digits as long as it fits 64 bits, and the digits from the first that does not. -/
def gathered : Nat → List Char → Nat × List Char
  | value, [] => (value, [])
  | value, char :: rest =>
    let next := value * 10 + Numeral.ofDigits [char]
    if next < UInt64.size then gathered next rest else (value, char :: rest)

namespace NumberToken

/-- The numeral has neither a point nor an exponent, even though its value may be whole otherwise. -/
def isWhole (numeral : NumberToken) : Bool :=
  numeral.places.isEmpty && numeral.exponent.isNone

/-- The digits that count, as a whole number of 64 bits, and the power of ten that it is times. -/
def scientific (numeral : NumberToken) : Numeral.Scientific :=
  -- Digits before the point that do not fit still count as zeros, and places that do not fit are cut off.
  let (value, zeros) := gathered 0 numeral.whole
  let (digits, cut) := gathered value numeral.places
  ⟨digits, numeral.exponent.getD 0 + zeros.length + cut.length - numeral.places.length⟩

/-- The number that a numeral stands for: whole in 64 bits, with or without sign, or binary64. -/
def number? (numeral : NumberToken) : Option Number :=
  -- A negative zero is no whole number, and a number beyond the finite ones has no value.
  let number := numeral.scientific
  let fits := numeral.isWhole && number.exponent == 0
  if fits && !numeral.negative then some (.integer number.digits)
  else if fits && number.digits != 0 && number.digits ≤ Nat.pow 2 63 then
    some (.integer (-number.digits))
  else (Double.scaled? numeral.negative number.digits number.exponent).map .float

end NumberToken

end RecordFilter.Json
