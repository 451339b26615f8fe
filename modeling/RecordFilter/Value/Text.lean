import RecordFilter.Calendar.Timestamp.Text
import RecordFilter.Number.Decimal.Text
import RecordFilter.Number.Double.Text
import RecordFilter.Value.Basic

/-! Values as text for people: strings stand without quotes, records in braces, lists in brackets. -/

namespace RecordFilter

namespace Value

mutual
/-- A value as text. -/
def text : Value → String
  | .null => "null"
  | .boolean value => if value then "true" else "false"
  | .int value => Numeral.integerText value.toInt
  | .float value => value.text
  | .decimal value => value.text
  | .string chars => chars
  | .date day => day.text
  | .timestamp time => time.text
  | .uuid identifier => identifier.text
  | .list items => "[" ++ Text.joined ", " (itemTexts items) ++ "]"
  | .record fields => "\x7b" ++ Text.joined ", " (fieldTexts fields) ++ "\x7d"
/-- The items of a list as texts. -/
def itemTexts : List Value → List String
  | [] => []
  | item :: rest => item.text :: itemTexts rest
/-- The fields of a record as texts, each with its name. -/
def fieldTexts : List (String × Value) → List String
  | [] => []
  | (name, value) :: rest => (name ++ ": " ++ value.text) :: fieldTexts rest
end

end Value

/-- A record as text. -/
def Record.text (record : Record) : String :=
  (Value.record record.fields).text

end RecordFilter
