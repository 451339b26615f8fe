import RecordFilter.Filter.Literal
import RecordFilter.Value.Order
import RecordFilter.Value.Parse

/-! Literals as values that can be compared with those of a type. -/

namespace RecordFilter

/-- Why a literal cannot be compared with values of a type. -/
inductive CoercionError
  | incomparable (type : DataType) (kind : String)
  | unreadable (text : String) (type : DataType) (cause : ScalarError)
  | notDecimal (value : Double)
  deriving Repr

/-- The wording of a coercion error. -/
def CoercionError.message (error : CoercionError) (reasons : Reasons := .untold) : String :=
  match error with
  | .incomparable type kind => "cannot compare " ++ type.text ++ " with a " ++ kind ++ " literal"
  | .unreadable text type cause =>
    "'" ++ text ++ "' is not a valid " ++ type.text ++ ": " ++ cause.message reasons
  | .notDecimal value => value.text ++ " is not representable as a decimal"

namespace Literal

/-- The scalar of a type that a string of a filter stands for. -/
def readAs (type : DataType) (text : String) : Except CoercionError Value :=
  (Value.parse type text).mapError (.unreadable text type)

/-- The value that a literal stands for beside values of a type. -/
def coerce (type : DataType) (literal : Literal) : Except CoercionError Value :=
  -- A fraction stays one beside integers, and a date beside timestamps is its midnight.
  match type, literal with
  | _, .null => .ok .null
  | .boolean, .boolean value => .ok (.boolean value)
  | .int, .int value => .ok (.int value)
  | .int, .float value => .ok (.float value)
  | .float, .float value => .ok (.float value)
  | .float, .int value => .ok (.float (.ofInt value.toInt))
  | .decimal, .int value => .ok (.decimal (.ofInt value.toInt))
  | .decimal, .float value =>
    match value.toDecimal? with
    | some decimal => .ok (.decimal decimal)
    | none => .error (.notDecimal value)
  | .string, .string text => .ok (.string text)
  | .decimal, .string text => readAs .decimal text
  | .date, .string text => readAs .date text
  | .timestamp, .string text => readAs .timestamp text
  | .uuid, .string text => readAs .uuid text
  | .date, .date day => .ok (.date day)
  | .timestamp, .timestamp time => .ok (.timestamp time)
  | .timestamp, .date day => .ok (.timestamp (.midnight day))
  | type, literal => .error (.incomparable type literal.kind)

end Literal

end RecordFilter
