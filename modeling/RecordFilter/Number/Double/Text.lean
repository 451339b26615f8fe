import RecordFilter.Number.Double.Shortest

/-! Binary64 numbers as text: the positional form, the form of JSON, and reading either. -/

namespace RecordFilter.Double

open Numeral (Scientific)

/-- The positional form: shortest digits without an exponent, and without a point in whole numbers. -/
def text : Double → String
  | .nan => "NaN"
  | .infinite negative => String.ofList (Numeral.signed negative ['i', 'n', 'f'])
  | .finite negative rank =>
    String.ofList (Numeral.signed negative (shortest .up rank.val).positional)

/-- The form of JSON: a whole number keeps one place, and large or small numbers have an exponent. -/
def jsonChars (number : Scientific) : List Char :=
  -- The positional form serves where the leading digit stands between these two exponents.
  if number.digits ≠ 0 ∧ (number.leading < -5 ∨ 15 < number.leading) then
    number.mantissa ++ 'e' :: (if number.leading < 0 then ['-'] else ['+']) ++
      Numeral.digits number.leading.natAbs
  else if 0 ≤ number.exponent then number.positional ++ ['.', '0']
  else number.positional

/-- A finite number as JSON writes it; others have no form there. -/
def jsonText? : Double → Option String
  | .finite negative rank =>
    some (String.ofList (Numeral.signed negative (jsonChars (shortest .toEven rank.val))))
  | _ => none

/-- Why a text is no binary64 number. -/
inductive ReadError
  | empty
  | invalid
  deriving DecidableEq, Repr

/-- The wording of a reading error. -/
def ReadError.message : ReadError → String
  | .empty => "cannot parse float from empty string"
  | .invalid => "invalid float literal"

/-- The exponent that ends a number: nothing, or a marked whole number with an optional sign. -/
def readExponent? : List Char → Option Int
  -- At least one digit follows the mark.
  | [] => some 0
  | mark :: rest =>
    let (negative, chars) := match rest with
      | '-' :: chars => (true, chars)
      | '+' :: chars => (false, chars)
      | chars => (false, chars)
    if (mark = 'e' ∨ mark = 'E') ∧ chars ≠ [] ∧ chars.all Numeral.isDigit then
      let value : Int := Numeral.ofDigits chars
      some (if negative then -value else value)
    else none

/-- A magnitude in digits with at most one point among or beside them, and an optional exponent. -/
def readMagnitude? (negative : Bool) (chars : List Char) : Option Double := do
  -- The digits on either side of the point together are the number's digits.
  let (whole, rest) := chars.span Numeral.isDigit
  let (places, rest) := match rest with
    | '.' :: after => after.span Numeral.isDigit
    | _ => ([], rest)
  guard (!(whole.isEmpty && places.isEmpty))
  let exponent ← readExponent? rest
  return ofScientific negative (Numeral.ofDigits (whole ++ places)) (exponent - places.length)

/-- A number without its sign, the names of the special ones in either case included. -/
def readUnsigned? (negative : Bool) (chars : List Char) : Option Double :=
  let name := String.ofList (chars.map Char.toLower)
  if name = "nan" then some .nan
  else if name = "inf" ∨ name = "infinity" then some (.infinite negative)
  else readMagnitude? negative chars

/-- Reads a number with an optional sign. -/
def read (text : String) : Except ReadError Double :=
  -- Only a text without any character counts as empty; a sign alone does not.
  let found := match text.toList with
    | '-' :: chars => readUnsigned? true chars
    | '+' :: chars => readUnsigned? false chars
    | chars => readUnsigned? false chars
  if text.isEmpty then .error .empty
  else match found with
    | some number => .ok number
    | none => .error .invalid

end RecordFilter.Double
