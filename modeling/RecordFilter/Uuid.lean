import RecordFilter.Numeral.Digits

/-! Universally unique identifiers: 128 bits, written as hexadecimal digits in five groups. -/

namespace RecordFilter

/-- A universally unique identifier. -/
structure Uuid where
  bits : BitVec 128
  deriving DecidableEq, Repr

namespace Uuid

/-- Orders identifiers by their bits as one number. -/
def compare (left right : Uuid) : Ordering :=
  Ord.compare left.bits.toNat right.bits.toNat

/-- The sizes of the groups of digits. -/
def groupSizes : List Nat :=
  [8, 4, 4, 4, 12]

/-- Cuts digits into groups with hyphens between them; the last group takes what is left. -/
def grouped : List Nat → List Char → List Char
  | [], chars => chars
  | [_], chars => chars
  | size :: sizes, chars => chars.take size ++ '-' :: grouped sizes (chars.drop size)

/-- The thirty-two digits of an identifier. -/
def hexChars (uuid : Uuid) : List Char :=
  -- Leading zeros are written out.
  let chars := Nat.toDigits 16 uuid.bits.toNat
  List.replicate (32 - chars.length) '0' ++ chars

/-- An identifier as text, in small letters. -/
def text (uuid : Uuid) : String :=
  String.ofList (grouped groupSizes uuid.hexChars)

/-- The identifier of thirty-two hexadecimal digits. -/
def ofHex? (chars : List Char) : Option Uuid :=
  if chars.length = 32 then (Numeral.ofHexDigits? chars).map fun value => ⟨BitVec.ofNat 128 value⟩
  else none

/-- Takes the hyphens out of a text whose digits stand in groups. -/
def ungrouped? : List Nat → List Char → Option (List Char)
  | [], chars => some chars
  | [_], chars => some chars
  | size :: sizes, chars =>
    match chars.drop size with
    | '-' :: rest => (ungrouped? sizes rest).map (chars.take size ++ ·)
    | _ => none

/-- The scheme of names for identifiers. -/
def scheme : List Char :=
  ['u', 'r', 'n', ':', 'u', 'u', 'i', 'd', ':']

/-- The characters inside the braces or after the scheme of an identifier, if it has either. -/
def unwrapped? : List Char → Option (List Char)
  -- The scheme may be written in any ASCII case.
  | '{' :: rest => if rest.getLast? = some '}' then some rest.dropLast else none
  | chars =>
    if (chars.take scheme.length).map Char.toLower = scheme then some (chars.drop scheme.length)
    else some chars

/-- Reads an identifier: digits alone, or in groups, the latter also in braces or as a name. -/
def read? (text : String) : Option Uuid :=
  -- Digits without groups admit no wrapping.
  ofHex? text.toList <|> do
    let chars ← unwrapped? text.toList
    let digits ← ungrouped? groupSizes chars
    ofHex? digits

end Uuid

end RecordFilter
