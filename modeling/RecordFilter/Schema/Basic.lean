import RecordFilter.Fields
import RecordFilter.Text.Search

/-! Types of data, and schemas: the named and typed fields of records. -/

namespace RecordFilter

/-- The type of a value; a record type carries the name and the fields of its schema. -/
inductive DataType
  | boolean
  | int
  | float
  | decimal
  | string
  | date
  | timestamp
  | uuid
  | list (element : DataType)
  | record (name : String) (fields : List (String × DataType))
  deriving Repr

/-- The fields of records of one kind, each of which may be null or missing. -/
structure Schema where
  name : String
  fields : List (String × DataType)
  deriving Repr

namespace DataType

/-- The type as messages name it. -/
def text : DataType → String
  | .boolean => "boolean"
  | .int => "int"
  | .float => "float"
  | .decimal => "decimal"
  | .string => "string"
  | .date => "date"
  | .timestamp => "timestamp"
  | .uuid => "uuid"
  | .list element => "list<" ++ element.text ++ ">"
  | .record name _ => "record " ++ name

/-- Values of the type are numbers. -/
def isNumeric : DataType → Bool
  | .int | .float | .decimal => true
  | _ => false

/-- Values of the type have an order that filters may ask about. -/
def isOrdered : DataType → Bool
  | .date | .timestamp => true
  | type => type.isNumeric

/-- Values of the type are texts. -/
def isText : DataType → Bool
  | .string => true
  | _ => false

end DataType

namespace Schema

/-- The type of records of a schema. -/
def type (schema : Schema) : DataType :=
  .record schema.name schema.fields

/-- The field of a name, exactly or in any ASCII case, with the schema's own spelling. -/
def field? (schema : Schema) (name : String) : Option (String × DataType) :=
  Fields.lookup? name schema.fields

/-- The names of the fields in order. -/
def fieldNames (schema : Schema) : List String :=
  Fields.names schema.fields

end Schema

end RecordFilter
