import RecordFilter.Calendar.Timestamp
import RecordFilter.Fields
import RecordFilter.Number.Double
import RecordFilter.Uuid

/-! Values of record fields, and records: named values in order. -/

namespace RecordFilter

/-- A value; a record holds its fields in order, and a hand-made one may repeat a name. -/
inductive Value
  | null
  | boolean (value : Bool)
  | int (value : Int64)
  | float (value : Double)
  | decimal (value : Decimal)
  | string (text : String)
  | date (day : Date)
  | timestamp (time : Timestamp)
  | uuid (identifier : Uuid)
  | list (items : List Value)
  | record (fields : List (String × Value))
  deriving Repr

/-- A record: named values in order. -/
structure Record where
  fields : List (String × Value)
  deriving Repr

namespace Value

/-- The value is null. -/
def isNull : Value → Bool
  | .null => true
  | _ => false

/-- The text of a string. -/
def text? : Value → Option String
  | .string text => some text
  | _ => none

/-- The items of a list. -/
def items? : Value → Option (List Value)
  | .list items => some items
  | _ => none

/-- The record that a value is. -/
def record? : Value → Option Record
  | .record fields => some ⟨fields⟩
  | _ => none

/-- The word for the kind of a value. -/
def kind : Value → String
  | .null => "null"
  | .boolean _ => "boolean"
  | .int _ => "int"
  | .float _ => "float"
  | .decimal _ => "decimal"
  | .string _ => "string"
  | .date _ => "date"
  | .timestamp _ => "timestamp"
  | .uuid _ => "uuid"
  | .list _ => "list"
  | .record _ => "record"

end Value

namespace Record

/-- The record without fields. -/
def empty : Record :=
  ⟨[]⟩

/-- Adds a field, or replaces the value of the field of exactly that name. -/
def set (record : Record) (name : String) (value : Value) : Record :=
  ⟨Fields.set name value record.fields⟩

/-- The value of a field, by exact name first and then in any ASCII case. -/
def get? (record : Record) (name : String) : Option Value :=
  Fields.get? name record.fields

/-- The value of a field by its exact name. -/
def getExact? (record : Record) (name : String) : Option Value :=
  Fields.getExact? name record.fields

/-- The record of fields set one after another. -/
def ofList (fields : List (String × Value)) : Record :=
  fields.foldl (fun record field => record.set field.1 field.2) empty

end Record

end RecordFilter
