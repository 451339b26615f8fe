import RecordFilter.Number.Double
import RecordFilter.Numeral.Integer

/-! JSON values: what a JSON text stands for once its numbers and strings are understood. -/

namespace RecordFilter

/-- A number of a JSON text: a whole number of 64 bits, or a binary64 number otherwise. -/
inductive Json.Number
  | integer (value : Int)
  | float (value : Double)
  deriving DecidableEq, Repr

/-- A JSON value; an object keeps every member that was written, in order. -/
inductive Json
  | null
  | boolean (value : Bool)
  | number (value : Json.Number)
  | string (text : String)
  | array (items : List Json)
  | object (members : List (String × Json))
  deriving Repr, Inhabited

namespace Json

/-- The word for the kind of a JSON value. -/
def kind : Json → String
  | .null => "null"
  | .boolean _ => "boolean"
  | .number _ => "number"
  | .string _ => "string"
  | .array _ => "array"
  | .object _ => "object"

/-- The member of a name; of several members of one name the last counts. -/
def member? (name : String) (members : List (String × Json)) : Option Json :=
  (members.reverse.find? fun member => member.1 = name).map Prod.snd

/-- The 64-bit integer of a number that was written as a whole one. -/
def Number.int64? : Number → Option Int64
  | .integer value => Numeral.int64? value
  | .float _ => none

/-- The binary64 number nearest to a number. -/
def Number.double : Number → Double
  | .integer value => .ofInt value
  | .float value => value

end Json

end RecordFilter
