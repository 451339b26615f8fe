import RecordFilter.Calendar.Timestamp.Text
import RecordFilter.Json.Member
import RecordFilter.Json.Text
import RecordFilter.Number.Decimal.Text
import RecordFilter.Value.Basic

/-! Values and records as they are stored in JSON, each with the name of its kind. -/

namespace RecordFilter

namespace Decimal

/-- The decimal of a number: a whole one, or the exact value of a binary64 one. -/
def ofNumber? : Json.Number → Option Decimal
  | .integer value => some (ofInt value)
  | .float value => value.toDecimal?

/-- The decimal that a written string or number stands for. -/
def ofWritten? : Json.Written → Option Decimal
  | .string codes => (Json.text? codes).bind read?
  | .number numeral => numeral.number?.bind ofNumber?
  | _ => none

end Decimal

namespace Value

open Json (Written fill?)

/-- The value of a kind without parts, from what is written for it. -/
def scalarOfWritten? (kind : String) (content : Written) : Option Value :=
  match kind with
  | "Null" => if content.isNull then some .null else none
  | "Boolean" =>
    match content with
    | .boolean value => some (.boolean value)
    | _ => none
  | "Int" => (content.number?.bind Json.Number.int64?).map .int
  | "Float" => content.number?.map fun number => .float number.double
  | "Decimal" => (Decimal.ofWritten? content).map .decimal
  | "String" => content.string?.map .string
  | "Date" => (content.string?.bind Date.readLoose?).map .date
  | "Timestamp" => (content.string?.bind Timestamp.readLoose?).map .timestamp
  | "Uuid" => (content.string?.bind Uuid.read?).map .uuid
  | _ => none

/-- The members of a field that are known so far. -/
structure FieldParts where
  name : Option String
  value : Option Value

/-- The field of its members, both of which have to be there. -/
def FieldParts.field? (parts : FieldParts) : Option (String × Value) := do
  return (← parts.name, ← parts.value)

mutual
/-- The value that is written, in which arrays and objects nest at most so deep. -/
def ofWritten? (room : Nat) : Written → Option Value
  -- Only null may stand without parts; others are an object of one member that names the kind.
  | .string codes =>
    match Json.text? codes with
    | some "Null" => some .null
    | _ => none
  | .object [(kind, content)] =>
    if room = 0 then none
    else match Json.text? kind with
      | some "List" => (itemArray? (room - 1) content).map .list
      | some "Record" => (fields? (room - 1) content).map .record
      | some kind => scalarOfWritten? kind content
      | none => none
  | _ => none
/-- The items of a list, which stand in an array. -/
def itemArray? (room : Nat) : Written → Option (List Value)
  | .array items => if room = 0 then none else itemList? (room - 1) items
  | _ => none
/-- The values of several written ones. -/
def itemList? (room : Nat) : List Written → Option (List Value)
  | [] => some []
  | item :: rest => do
    let value ← ofWritten? room item
    let values ← itemList? room rest
    return value :: values
/-- The fields of a record: in an object under one name, or in an array as its one item. -/
def fields? (room : Nat) : Written → Option (List (String × Value))
  | .object members => if room = 0 then none else (recordMembers? (room - 1) none members).bind id
  | .array [fields] => if room = 0 then none else fieldArray? (room - 1) fields
  | _ => none
/-- Takes the members of a record in. -/
def recordMembers? (room : Nat) (fields : Option (List (String × Value))) :
    List (List Nat × Written) → Option (Option (List (String × Value)))
  | [] => some fields
  | (name, content) :: rest =>
    match Json.text? name with
    | some "field_values" => do
      let fields ← fill? fields (fieldArray? room content)
      recordMembers? room fields rest
    | some _ => recordMembers? room fields rest
    | none => none
/-- The fields that stand in an array. -/
def fieldArray? (room : Nat) : Written → Option (List (String × Value))
  | .array items => if room = 0 then none else fieldList? (room - 1) items
  | _ => none
/-- The fields that several written values stand for. -/
def fieldList? (room : Nat) : List Written → Option (List (String × Value))
  | [] => some []
  | item :: rest => do
    let field ← fieldOfWritten? room item
    let fields ← fieldList? room rest
    return field :: fields
/-- The field that a written value stands for: an object, or an array of name and value. -/
def fieldOfWritten? (room : Nat) : Written → Option (String × Value)
  | .object members =>
    if room = 0 then none
    else (fieldMembers? (room - 1) ⟨none, none⟩ members).bind FieldParts.field?
  | .array [name, value] =>
    if room = 0 then none
    else do return (← name.string?, ← ofWritten? (room - 1) value)
  | _ => none
/-- Takes the members of a field in. -/
def fieldMembers? (room : Nat) (parts : FieldParts) :
    List (List Nat × Written) → Option FieldParts
  | [] => some parts
  | (name, content) :: rest =>
    match Json.text? name with
    | some "name" => do
      let name ← fill? parts.name content.string?
      fieldMembers? room { parts with name } rest
    | some "value" => do
      let value ← fill? parts.value (ofWritten? room content)
      fieldMembers? room { parts with value } rest
    | some _ => fieldMembers? room parts rest
    | none => none
end

/-- Reads a stored value from JSON text. -/
def read? (text : String) : Option Value :=
  (Json.Written.read? text).bind (ofWritten? Json.nestingLimit)

/-- A record as an object, given its fields in that form. -/
def recordObject (fields : List Json) : Json :=
  .object [("field_values", .array fields)]

mutual
/-- The JSON value that stores a value. -/
def toJson : Value → Json
  | .null => .string "Null"
  | .boolean value => .object [("Boolean", .boolean value)]
  | .int value => .object [("Int", .number (.integer value.toInt))]
  | .float value => .object [("Float", .number (.float value))]
  | .decimal value => .object [("Decimal", .string value.text)]
  | .string text => .object [("String", .string text)]
  | .date day => .object [("Date", .string day.text)]
  | .timestamp time => .object [("Timestamp", .string time.storedText)]
  | .uuid identifier => .object [("Uuid", .string identifier.text)]
  | .list items => .object [("List", .array (itemsToJson items))]
  | .record fields => .object [("Record", recordObject (fieldsToJson fields))]
/-- The JSON values that store several values. -/
def itemsToJson : List Value → List Json
  | [] => []
  | item :: rest => item.toJson :: itemsToJson rest
/-- The JSON values that store fields. -/
def fieldsToJson : List (String × Value) → List Json
  | [] => []
  | (name, value) :: rest =>
    .object [("name", .string name), ("value", value.toJson)] :: fieldsToJson rest
end

end Value

namespace Record

/-- Reads a stored record from JSON text. -/
def read? (text : String) : Option Record :=
  ((Json.Written.read? text).bind (Value.fields? Json.nestingLimit)).map Record.mk

/-- The JSON value that stores a record. -/
def toJson (record : Record) : Json :=
  Value.recordObject (Value.fieldsToJson record.fields)

end Record

end RecordFilter
