import RecordFilter.Calendar.Timestamp.Text
import RecordFilter.Number.Double.Text
import RecordFilter.Text.Search

/-! Literals: the values that a filter is written with, before any schema gives them a type. -/

namespace RecordFilter

/-- A value written in a filter. -/
inductive Literal
  | null
  | boolean (value : Bool)
  | int (value : Int64)
  | float (value : Double)
  | string (text : String)
  | list (items : List Literal)
  | date (day : Date)
  | timestamp (time : Timestamp)
  deriving Repr

namespace Literal

/-- The literal is null. -/
def isNull : Literal → Bool
  | .null => true
  | _ => false

/-- The text of a string. -/
def text? : Literal → Option String
  | .string text => some text
  | _ => none

/-- The items of a list. -/
def items? : Literal → Option (List Literal)
  | .list items => some items
  | _ => none

/-- The word for the kind of a literal. -/
def kind : Literal → String
  | .null => "null"
  | .boolean _ => "boolean"
  | .int _ => "integer"
  | .float _ => "float"
  | .string _ => "string"
  | .list _ => "list"
  | .date _ => "date"
  | .timestamp _ => "timestamp"

/-- A string between quotes, in which nothing is escaped. -/
def inQuotes (text : String) : String :=
  "\"" ++ text ++ "\""

mutual
/-- A literal as text, with quotes around every string. -/
def text : Literal → String
  | .null => "null"
  | .boolean value => if value then "true" else "false"
  | .int value => Numeral.integerText value.toInt
  | .float value => value.text
  | .string chars => inQuotes chars
  | .list items => "[" ++ Text.joined ", " (itemTexts items) ++ "]"
  | .date day => day.text
  | .timestamp time => time.text
/-- The items of a list as texts. -/
def itemTexts : List Literal → List String
  | [] => []
  | item :: rest => item.text :: itemTexts rest
end

end Literal

end RecordFilter
