import RecordFilter.Json.Member
import RecordFilter.Json.Text
import RecordFilter.Schema.Basic

/-! Schemas and types as JSON; members that have no meaning are passed over whatever they hold. -/

namespace RecordFilter

namespace Schema

/-- The members of a schema that are known so far. -/
structure Parts where
  name : Option String
  fields : Option (List (String × DataType))

/-- The schema of its members, of which the name has to be there. -/
def Parts.schema? (parts : Parts) : Option Schema := do
  return ⟨← parts.name, parts.fields.getD []⟩

/-- The members of a field that are known so far. -/
structure FieldParts where
  name : Option String
  type : Option DataType

/-- The field of its members, both of which have to be there. -/
def FieldParts.field? (parts : FieldParts) : Option (String × DataType) := do
  return (← parts.name, ← parts.type)

end Schema

namespace DataType

/-- The type of a word; types that have parts are no words. -/
def ofWord? : String → Option DataType
  | "boolean" => some .boolean
  | "int" => some .int
  | "float" => some .float
  | "decimal" => some .decimal
  | "string" => some .string
  | "date" => some .date
  | "timestamp" => some .timestamp
  | "uuid" => some .uuid
  | _ => none

open Json (Written fill?)

mutual
/-- The type that a written value names, in which arrays and objects nest at most so deep. -/
def ofWritten? (room : Nat) : Written → Option DataType
  -- A type with parts is an object of one member, and so may a word be.
  | .string codes => (Json.text? codes).bind ofWord?
  | .object [(name, content)] =>
    if room = 0 then none
    else match Json.text? name with
      | some "list" => (ofWritten? (room - 1) content).map .list
      | some "record" => (schemaOfWritten? (room - 1) content).map Schema.type
      | some word => if content.isNull then ofWord? word else none
      | none => none
  | _ => none
/-- The schema that a written value stands for: an object, or an array of name and fields in order. -/
def schemaOfWritten? (room : Nat) : Written → Option Schema
  | .object members =>
    if room = 0 then none
    else (schemaMembers? (room - 1) ⟨none, none⟩ members).bind Schema.Parts.schema?
  | .array [name] => if room = 0 then none else name.string?.map (Schema.mk · [])
  | .array [name, fields] =>
    if room = 0 then none
    else do return ⟨← name.string?, ← fields? (room - 1) fields⟩
  | _ => none
/-- Takes the members of a schema in. -/
def schemaMembers? (room : Nat) (parts : Schema.Parts) :
    List (List Nat × Written) → Option Schema.Parts
  | [] => some parts
  | (name, content) :: rest =>
    match Json.text? name with
    | some "name" => do
      let name ← fill? parts.name content.string?
      schemaMembers? room { parts with name } rest
    | some "fields" => do
      let fields ← fill? parts.fields (fields? room content)
      schemaMembers? room { parts with fields } rest
    | some _ => schemaMembers? room parts rest
    | none => none
/-- The fields of a schema, which stand in an array. -/
def fields? (room : Nat) : Written → Option (List (String × DataType))
  | .array items => if room = 0 then none else fieldList? (room - 1) items
  | _ => none
/-- The fields that several written values stand for. -/
def fieldList? (room : Nat) : List Written → Option (List (String × DataType))
  | [] => some []
  | item :: rest => do
    let field ← fieldOfWritten? room item
    let fields ← fieldList? room rest
    return field :: fields
/-- The field that a written value stands for: an object, or an array of name and type. -/
def fieldOfWritten? (room : Nat) : Written → Option (String × DataType)
  | .object members =>
    if room = 0 then none
    else (fieldMembers? (room - 1) ⟨none, none⟩ members).bind Schema.FieldParts.field?
  | .array [name, type] =>
    if room = 0 then none
    else do return (← name.string?, ← ofWritten? (room - 1) type)
  | _ => none
/-- Takes the members of a field in. -/
def fieldMembers? (room : Nat) (parts : Schema.FieldParts) :
    List (List Nat × Written) → Option Schema.FieldParts
  | [] => some parts
  | (name, content) :: rest =>
    match Json.text? name with
    | some "name" => do
      let name ← fill? parts.name content.string?
      fieldMembers? room { parts with name } rest
    | some "data_type" => do
      let type ← fill? parts.type (ofWritten? room content)
      fieldMembers? room { parts with type } rest
    | some _ => fieldMembers? room parts rest
    | none => none
end

/-- Reads a type from JSON text. -/
def read? (text : String) : Option DataType :=
  (Json.Written.read? text).bind (ofWritten? Json.nestingLimit)

/-- A schema as an object, given its fields in that form. -/
def schemaObject (name : String) (fields : List Json) : Json :=
  .object [("name", .string name), ("fields", .array fields)]

mutual
/-- The JSON value of a type. -/
def toJson : DataType → Json
  | .list element => .object [("list", element.toJson)]
  | .record name fields => .object [("record", schemaObject name (fieldsToJson fields))]
  | type => .string type.text
/-- The JSON values of fields. -/
def fieldsToJson : List (String × DataType) → List Json
  | [] => []
  | (name, type) :: rest =>
    .object [("name", .string name), ("data_type", type.toJson)] :: fieldsToJson rest
end

end DataType

namespace Schema

/-- Reads a schema from JSON text. -/
def read? (text : String) : Option Schema :=
  (Json.Written.read? text).bind (DataType.schemaOfWritten? Json.nestingLimit)

/-- The JSON value of a schema. -/
def toJson (schema : Schema) : Json :=
  DataType.schemaObject schema.name (DataType.fieldsToJson schema.fields)

end Schema

end RecordFilter
