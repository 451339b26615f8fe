import RecordFilter.Value.Basic

/-! The value that evaluation looks at, and the steps from it to others. -/

namespace RecordFilter

/-- A step into a value: to a field by its exact name, or to an item of a list. -/
inductive Step
  | field (name : String)
  | item (place : UInt64)
  deriving DecidableEq, Repr

/-- What evaluation looks at: a whole record at first, and then values. -/
inductive Focus
  | record (whole : Record)
  | value (held : Value)
  deriving Repr

namespace Focus

/-- What a focus holds under the exact name of a field; null stands for what is missing. -/
def field (focus : Focus) (name : String) : Value :=
  match focus with
  | .record whole => (whole.getExact? name).getD .null
  | .value (.record fields) => (Fields.getExact? name fields).getD .null
  | .value _ => .null

/-- The item of a list at a place; null stands for what is missing. -/
def item (focus : Focus) (place : UInt64) : Value :=
  match focus with
  | .value (.list items) => items[place.toNat]?.getD .null
  | _ => .null

/-- The focus after a step. -/
def take (focus : Focus) : Step → Focus
  | .field name => .value (focus.field name)
  | .item place => .value (focus.item place)

/-- The focus after several steps. -/
def walk (focus : Focus) (steps : List Step) : Focus :=
  steps.foldl take focus

/-- The items of the list in focus; whatever is no list has none. -/
def elements : Focus → List Value
  | .value (.list items) => items
  | _ => []

/-- The value in focus, for which an empty record stands in where a whole record is. -/
def content : Focus → Value
  -- Whole records are only ever asked whether they are null.
  | .record _ => .record []
  | .value held => held

end Focus

end RecordFilter
