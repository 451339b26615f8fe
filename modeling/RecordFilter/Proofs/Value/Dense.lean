import RecordFilter.Predicate.Untyped
import RecordFilter.Proofs.Fields
import RecordFilter.Proofs.Predicate.Reading
import RecordFilter.Proofs.Value.Loading

/-! Values from which the types of their lists and records can be told, since none of these is missing. -/

namespace RecordFilter

namespace DataType

/-- No list stands anywhere in the type. -/
inductive ListFree : DataType → Prop
  | scalar {type : DataType} (scalar : type.isScalar = true) : ListFree type
  | record {name : String} {declared : List (String × DataType)}
      (every : ∀ field ∈ declared, ListFree field.2) : ListFree (.record name declared)

/-- Scalars are truth values, integers and texts, and no two fields of a record agree in any ASCII case. -/
def Elementary : DataType → Prop :=
  Everywhere (fun type => type = .boolean ∨ type = .int ∨ type = .string) Fields.Unlike

variable {type : DataType}

/-- What is handed to a body is of an elementary type. -/
theorem Elementary.of_bodyType? {inner : DataType} {entered : Bool} (elementary : type.Elementary)
    (handed : type.bodyType? entered = some inner) : inner.Elementary := by
  -- The body is handed the element of a list or the type itself.
  cases type with
  | list element =>
    obtain rfl := Option.some.inj handed
    exact elementary.of_list
  | _ =>
    simp only [bodyType?, Option.ite_none_right_eq_some, Option.some.injEq] at handed
    obtain ⟨-, rfl⟩ := handed
    exact elementary

end DataType

namespace Value

/-- The value conforms to the type and lacks no list or record; its fields are spelled as they are declared. -/
inductive Dense : DataType → Value → Prop
  | scalar {type : DataType} {value : Value} (scalar : type.isScalar = true)
      (conforms : Conforms type value) : Dense type value
  | list {element : DataType} {items : List Value} (every : ∀ item ∈ items, Dense element item) :
      Dense (.list element) (.list items)
  -- What is missing counts as null, which only a scalar may be.
  | record {name : String} {declared : List (String × DataType)} {fields : List (String × Value)}
      (spelled : ∀ field ∈ fields, ∀ known ∈ declared, Text.agree field.1 known.1 = true →
        field.1 ∈ Fields.names declared)
      (every : ∀ field ∈ declared, Dense field.2 ((Fields.getExact? field.1 fields).getD .null)) :
      Dense (.record name declared) (.record fields)

/-- The value is dense, or it is null in the place of something without lists. -/
inductive Regular : DataType → Value → Prop
  | dense {type : DataType} {value : Value} (dense : Dense type value) : Regular type value
  | missing {type : DataType} (free : type.ListFree) : Regular type .null

end Value

namespace Value

variable {type element : DataType} {value : Value}

/-- A dense value conforms to its type. -/
theorem Dense.conforms (dense : Dense type value) : Conforms type value := by
  -- A field that is missing or null is looked at as null, which conforms to every type.
  induction dense with
  | scalar _ conforms => exact conforms
  | list _ ih => exact .list ih
  | record _ _ ih =>
    refine .of_declared fun field member value held => ?_
    have conforms := ih field member
    rwa [held] at conforms

/-- A regular value conforms to its type. -/
theorem Regular.conforms (regular : Regular type value) : Conforms type value := by
  -- What is missing is null, which every type takes.
  cases regular with
  | dense dense => exact dense.conforms
  | missing => exact .null

/-- Where a list is declared, a regular value is a list of regular items. -/
theorem Regular.list_items (regular : Regular (.list element) value) :
    ∃ items, value = .list items ∧ ∀ item ∈ items, Regular element item := by
  -- A missing value is regular at a type free of lists only.
  cases regular with
  | dense dense =>
    cases dense with
    | scalar scalar => cases scalar
    | list every => exact ⟨_, rfl, fun item member => .dense (every item member)⟩
  | missing free =>
    cases free with
    | scalar scalar => cases scalar

/-- Where no list is declared, a regular value is none. -/
theorem Regular.ne_list (regular : Regular type value) (single : ∀ element, type ≠ .list element)
    (items : List Value) : value ≠ .list items := by
  -- A list conforms to list types alone.
  rintro rfl
  cases regular with
  | dense dense =>
    cases dense with
    | scalar scalar conforms =>
      cases conforms with
      | list => exact single _ rfl
    | list => exact single _ rfl

/-- What a regular record holds under a declared name is regular. -/
theorem Regular.field {name sought spelling : String} {declared : List (String × DataType)}
    (found : Fields.lookup? sought declared = some (spelling, type))
    (regular : Regular (.record name declared) value) : Regular type (value.member spelling) := by
  have known : (spelling, type) ∈ declared := Fields.mem_of_lookup? found
  -- A record is dense under each name, and of a missing one every field is missing.
  cases regular with
  | dense dense =>
    cases dense with
    | scalar scalar => cases scalar
    | record spelled every => exact .dense (every _ known)
  | missing free =>
    cases free with
    | scalar scalar => cases scalar
    | record every => exact .missing (every _ known)

/-- An item is regular, also when there is none at the place, if it is of a type without lists. -/
theorem Regular.entry (free : element.ListFree) (place : UInt64)
    (regular : Regular (.list element) value) : Regular element (value.entry place) := by
  -- Past the end the item is missing, which a type free of lists allows.
  obtain ⟨items, rfl, every⟩ := regular.list_items
  show Regular element (items[place.toNat]?.getD .null)
  cases held : items[place.toNat]? with
  | none => exact .missing free
  | some item => exact every item (List.mem_of_getElem? held)

/-- A segment finds in a regular record what is declared under its name. -/
theorem Regular.held {segment : Segment} {name spelling : String}
    {declared : List (String × DataType)} (elementary : (DataType.record name declared).Elementary)
    (found : Fields.lookup? segment.name declared = some (spelling, type))
    (regular : Regular (.record name declared) value) :
    segment.held value = value.member spelling := by
  -- The segment is looked up in any case, which the spelling of the fields makes an exact lookup.
  cases regular with
  | dense dense =>
    cases dense with
    | scalar scalar => cases scalar
    | record spelled every =>
      exact congrArg (Option.getD · .null)
        (Fields.get?_of_spelled elementary.rule_of_record spelled found)
  | missing => rfl

end Value

end RecordFilter
