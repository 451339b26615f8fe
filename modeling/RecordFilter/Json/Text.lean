import RecordFilter.Json.Basic
import RecordFilter.Number.Double.Text

/-! JSON values as text, without white space. -/

namespace RecordFilter.Json

/-- Two hexadecimal digits in small letters. -/
def hexPair (code : Nat) : List Char :=
  [Nat.digitChar (code / 16 % 16), Nat.digitChar (code % 16)]

/-- A character inside a string: quotes, backslashes and control characters are escaped. -/
def escape (char : Char) : List Char :=
  -- Control characters with a letter of their own use it.
  if char = '"' then ['\\', '"']
  else if char = '\\' then ['\\', '\\']
  else if char = '\x08' then ['\\', 'b']
  else if char = '\x0c' then ['\\', 'f']
  else if char = '\n' then ['\\', 'n']
  else if char = '\r' then ['\\', 'r']
  else if char = '\t' then ['\\', 't']
  else if char.toNat < 0x20 then ['\\', 'u', '0', '0'] ++ hexPair char.toNat
  else [char]

/-- A string in quotes. -/
def quoted (text : String) : List Char :=
  '"' :: text.toList.flatMap escape ++ ['"']

/-- A number; one that is not finite has no form of its own and is written as null. -/
def Number.chars : Number → List Char
  | .integer value => Numeral.integerChars value
  | .float value => (value.jsonText?.getD "null").toList

mutual
/-- The characters of a value. -/
def chars : Json → List Char
  | .null => "null".toList
  | .boolean value => (if value then "true" else "false").toList
  | .number value => value.chars
  | .string text => quoted text
  | .array items => '[' :: itemChars items ++ [']']
  | .object members => '{' :: memberChars members ++ ['}']
/-- The characters of the items of an array, with commas between them. -/
def itemChars : List Json → List Char
  | [] => []
  | [item] => item.chars
  | item :: rest => item.chars ++ ',' :: itemChars rest
/-- The characters of the members of an object, with commas between them. -/
def memberChars : List (String × Json) → List Char
  | [] => []
  | [(name, value)] => quoted name ++ ':' :: value.chars
  | (name, value) :: rest => quoted name ++ ':' :: value.chars ++ ',' :: memberChars rest
end

/-- A value as text. -/
def text (json : Json) : String :=
  String.ofList json.chars

end RecordFilter.Json
