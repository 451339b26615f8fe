import RecordFilter.Calendar.Timestamp.Text
import RecordFilter.Number.Decimal.Text
import RecordFilter.Number.Double.Text
import RecordFilter.Numeral.Integer
import RecordFilter.Reasons
import RecordFilter.Schema.Basic
import RecordFilter.Value.Basic

/-! Scalars read from text by their type. -/

namespace RecordFilter

/-- Why a text is no scalar of a type. -/
inductive ScalarError
  | boolean
  | integer (cause : Numeral.IntegerError)
  | float (cause : Double.ReadError)
  | decimal (text : String)
  | date (text : String)
  | timestamp (text : String)
  | uuid (text : String)
  | unreadable (type : DataType)
  deriving Repr

/-- The wording of a scalar error. -/
def ScalarError.message (error : ScalarError) (reasons : Reasons := .untold) : String :=
  -- Why a text is no decimal, no date or no identifier is for their readers to say.
  match error with
  | .boolean => "expected 'true' or 'false'"
  | .integer cause => cause.message
  | .float cause => cause.message
  | .decimal text => reasons.decimal text
  | .date text => reasons.date text
  | .timestamp text => "'" ++ text ++ "' is not an RFC 3339 timestamp"
  | .uuid text => reasons.uuid text
  | .unreadable type => type.text ++ " cannot be parsed from text"

namespace Value

/-- Reads a truth value in any ASCII case. -/
def parseBoolean (text : String) : Except ScalarError Bool :=
  if Text.agree text "true" then .ok true
  else if Text.agree text "false" then .ok false
  else .error .boolean

/-- Reads a scalar of a type; a string is any text, and no text is a list or a record. -/
def parse (type : DataType) (text : String) : Except ScalarError Value :=
  match type with
  | .string => .ok (.string text)
  | .boolean => (parseBoolean text).map .boolean
  | .int => ((Numeral.readInt64 text).map .int).mapError .integer
  | .float => ((Double.read text).map .float).mapError .float
  | .decimal => ((Decimal.read? text).map Value.decimal).elim (.error (.decimal text)) .ok
  | .date => ((Date.read? text).map Value.date).elim (.error (.date text)) .ok
  | .timestamp => ((Timestamp.read? text).map Value.timestamp).elim (.error (.timestamp text)) .ok
  | .uuid => ((Uuid.read? text).map Value.uuid).elim (.error (.uuid text)) .ok
  | .list _ | .record _ _ => .error (.unreadable type)

end Value

end RecordFilter
