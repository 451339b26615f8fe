import RecordFilter.Json.Text
import RecordFilter.Value.Parse

/-! Records and values of a declared type read from JSON values. -/

namespace RecordFilter

/-- Where in a JSON value something stands, from the innermost step outwards. -/
inductive Json.Place
  | root
  | item (outer : Json.Place) (index : Nat)
  | member (outer : Json.Place) (name : String)
  deriving DecidableEq, Repr

/-- A place as text: a dollar sign, then a point before each name and brackets around each index. -/
def Json.Place.text : Json.Place → String
  | .root => "$"
  | .item outer index => outer.text ++ "[" ++ toString index ++ "]"
  | .member outer name => outer.text ++ "." ++ name

/-- Why a JSON value does not fit a type. -/
inductive ConversionError
  | mismatch (place : Json.Place) (expected : DataType) (found : String)
  | unreadable (place : Json.Place) (text : String) (expected : DataType) (cause : ScalarError)
  deriving Repr

/-- The wording of a conversion error. -/
def ConversionError.message (error : ConversionError) (reasons : Reasons := .untold) : String :=
  match error with
  | .mismatch place expected found =>
    "Expected " ++ expected.text ++ " at '" ++ place.text ++ "', found " ++ found
  | .unreadable place text expected cause =>
    "Failed to parse '" ++ text ++ "' as " ++ expected.text ++ " at '" ++ place.text ++ "': " ++
      cause.message reasons

namespace Value

/-- Reads a text as a scalar of a type. -/
def convertText (place : Json.Place) (type : DataType) (text : String) :
    Except ConversionError Value :=
  (parse type text).mapError (.unreadable place text type)

/-- Reads the items of an array one after another, the first failure deciding. -/
def convertItems (place : Json.Place) (convert : Json.Place → Json → Except ConversionError Value) :
    Nat → List Json → Except ConversionError (List Value)
  | _, [] => .ok []
  | index, item :: rest => do
    let value ← convert (.item place index) item
    let values ← convertItems place convert (index + 1) rest
    return value :: values

mutual
/-- The value of a type that a JSON value stands for; null fits every type. -/
def convert (place : Json.Place) : DataType → Json → Except ConversionError Value
  -- A number becomes a decimal by the text that JSON writes for it.
  | _, .null => .ok .null
  | .boolean, .boolean value => .ok (.boolean value)
  | .int, .number number =>
    match number.int64? with
    | some value => .ok (.int value)
    | none => .error (.mismatch place .int "number")
  | .float, .number number => .ok (.float number.double)
  | .decimal, .number number => convertText place .decimal (String.ofList number.chars)
  | .string, .string text => .ok (.string text)
  | .decimal, .string text => convertText place .decimal text
  | .date, .string text => convertText place .date text
  | .timestamp, .string text => convertText place .timestamp text
  | .uuid, .string text => convertText place .uuid text
  | .list element, .array items =>
    (convertItems place (fun place item => convert place element item) 0 items).map .list
  | .record _ declared, .object members =>
    (convertFields place declared members Record.empty).map fun found => Value.record found.fields
  | type, json => .error (.mismatch place type json.kind)
/-- Sets the fields of a schema that an object has, in the order of the schema. -/
def convertFields (place : Json.Place) :
    List (String × DataType) → List (String × Json) → Record → Except ConversionError Record
  -- Members that the schema does not name are passed over, and missing ones stay missing.
  | [], _, found => .ok found
  | (name, type) :: rest, members, found =>
    match Json.member? name members with
    | none => convertFields place rest members found
    | some member => do
      let value ← convert (.member place name) type member
      convertFields place rest members (found.set name value)
end

/-- The value of a type that a whole JSON value stands for. -/
def ofJson (type : DataType) (json : Json) : Except ConversionError Value :=
  convert .root type json

end Value

/-- The record of a schema that a JSON object stands for. -/
def Record.ofJson (schema : Schema) : Json → Except ConversionError Record
  -- Null is no record, although it is a value of every type.
  | .object members => Value.convertFields .root schema.fields members Record.empty
  | json => .error (.mismatch .root schema.type json.kind)

end RecordFilter
