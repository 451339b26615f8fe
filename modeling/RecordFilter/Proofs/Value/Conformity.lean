import RecordFilter.Predicate.Coercion
import RecordFilter.Predicate.Focus
import RecordFilter.Proofs.Outcome
import RecordFilter.Schema.Basic

/-! Values that conform to types, where steps lead from them, and how they stand beside literals. -/

namespace RecordFilter

/-- The value is of the kind of the type, with all its parts; null conforms to every type. -/
inductive Value.Conforms : DataType → Value → Prop
  | null {type : DataType} : Conforms type .null
  | boolean {value : Bool} : Conforms .boolean (.boolean value)
  | int {value : Int64} : Conforms .int (.int value)
  | float {value : Double} : Conforms .float (.float value)
  | decimal {value : Decimal} : Conforms .decimal (.decimal value)
  | string {text : String} : Conforms .string (.string text)
  | date {day : Date} : Conforms .date (.date day)
  | timestamp {time : Timestamp} : Conforms .timestamp (.timestamp time)
  | uuid {identifier : Uuid} : Conforms .uuid (.uuid identifier)
  | list {element : DataType} {items : List Value}
      (every : ∀ item ∈ items, Conforms element item) : Conforms (.list element) (.list items)
  -- Fields that no lookup returns may hold anything, and every field may be missing.
  | record {name : String} {declared : List (String × DataType)} {fields : List (String × Value)}
      (every : ∀ sought field type, Fields.lookup? sought declared = some (field, type) →
        ∀ value, Fields.getExact? field fields = some value → Conforms type value) :
      Conforms (.record name declared) (.record fields)

/-- The value is the floating-point number that is no number. -/
def Value.isNaN : Value → Bool
  | .float .nan => true
  | _ => false

/-- What is in focus conforms to a type, be it a record as a whole or a value. -/
def Focus.Conforms (type : DataType) : Focus → Prop
  | .record whole => Value.Conforms type (.record whole.fields)
  | .value held => Value.Conforms type held

namespace Value

/-- Null is the only value that is one. -/
theorem eq_null {value : Value} (absent : value.isNull = true) : value = .null := by
  cases value <;> first | rfl | cases absent

/-- A field that a lookup in the schema returns conforms to its type, also when it is missing. -/
theorem Conforms.field {name sought field : String} {declared : List (String × DataType)}
    {fields : List (String × Value)} {type : DataType}
    (conforms : Conforms (.record name declared) (.record fields))
    (found : Fields.lookup? sought declared = some (field, type)) :
    Conforms type ((Fields.getExact? field fields).getD .null) := by
  -- What is missing counts as null, which conforms to every type.
  cases conforms with
  | record every =>
    cases held : Fields.getExact? field fields with
    | none => exact .null
    | some value => exact every sought field type found value held

/-- A record conforms when what it holds under the name of each declared field does. -/
theorem Conforms.of_declared {name : String} {declared : List (String × DataType)}
    {fields : List (String × Value)}
    (every : ∀ field ∈ declared, ∀ value, Fields.getExact? field.1 fields = some value →
      Conforms field.2 value) : Conforms (.record name declared) (.record fields) :=
  .record fun _ _ _ found => every _ (Fields.mem_of_lookup? found)

/-- An item of a list conforms to the element type, also when there is none at the place. -/
theorem Conforms.item {element : DataType} {items : List Value} (place : Nat)
    (conforms : Conforms (.list element) (.list items)) :
    Conforms element (items[place]?.getD .null) := by
  -- Past the end the item is null, which conforms to everything.
  cases conforms with
  | list every =>
    cases held : items[place]? with
    | none => exact .null
    | some value => exact every value (List.mem_of_getElem? held)

/-- Every number of binary64 but NaN has a position on the number line. -/
theorem position?_isSome {value : Double} (number : (Value.float value).isNaN = false) :
    value.position?.isSome = true := by
  cases value <;> simp_all [Double.position?, isNaN]

/-- An integer has an order beside every number of binary64 but NaN. -/
theorem compareIntFloat?_isSome {integer : Int64} {value : Double}
    (number : (Value.float value).isNaN = false) :
    (compareIntFloat? integer value).isSome = true := by
  cases value <;> simp_all [compareIntFloat?, Double.toDecimal?, isNaN]

/-- Numbers of binary64 other than NaN have an order beside each other. -/
theorem float_compare?_isSome {left right : Double} (number : (Value.float left).isNaN = false)
    (other : (Value.float right).isNaN = false) : (left.compare? right).isSome = true := by
  -- The order is that of the positions, which only NaN is without.
  have first := position?_isSome number
  have second := position?_isSome other
  rw [Option.isSome_iff_exists] at first second
  obtain ⟨place, first⟩ := first
  obtain ⟨beside, second⟩ := second
  simp [Double.compare?, first, second]

/-- What is read as a scalar of a type conforms to it, and is not null. -/
theorem parse_conforms {type : DataType} {text : String} {value : Value}
    (read : parse type text = .ok value) : Conforms type value ∧ value.isNull = false := by
  -- A reader that gives up makes an error, so the value carries what the reader found.
  have carried : ∀ {α : Type} {found : Option α} {wrap : α → Value} {fault : ScalarError},
      (found.map wrap).elim (Except.error fault) Except.ok = .ok value →
        ∃ scalar, value = wrap scalar := by
    intro α found wrap fault taken
    cases found with
    | none => cases taken
    | some scalar => exact ⟨scalar, (Except.ok.inj taken).symm⟩
  cases type with
  | list element => cases read
  | record name fields => cases read
  | string =>
    cases read
    exact ⟨.string, rfl⟩
  | boolean =>
    obtain ⟨flag, _, rfl⟩ := Outcome.map_eq_ok.1 read
    exact ⟨.boolean, rfl⟩
  | int =>
    obtain ⟨number, _, rfl⟩ := Outcome.map_eq_ok.1 (Outcome.mapError_eq_ok.1 read)
    exact ⟨.int, rfl⟩
  | float =>
    obtain ⟨number, _, rfl⟩ := Outcome.map_eq_ok.1 (Outcome.mapError_eq_ok.1 read)
    exact ⟨.float, rfl⟩
  | decimal =>
    obtain ⟨number, rfl⟩ := carried read
    exact ⟨.decimal, rfl⟩
  | date =>
    obtain ⟨day, rfl⟩ := carried read
    exact ⟨.date, rfl⟩
  | timestamp =>
    obtain ⟨time, rfl⟩ := carried read
    exact ⟨.timestamp, rfl⟩
  | uuid =>
    obtain ⟨identifier, rfl⟩ := carried read
    exact ⟨.uuid, rfl⟩

/-- A literal stands for a value of the type, or for a fraction beside integers; only null for null. -/
theorem coerce_conforms {type : DataType} {literal : Literal} {value : Value}
    (read : literal.coerce type = .ok value) :
    (Conforms type value ∨ type = .int ∧ ∃ number, value = .float number) ∧
      value.isNull = literal.isNull := by
  -- The kinds decide, and the types that are read from text by what their readers give.
  cases literal with
  | null =>
    cases read
    exact ⟨.inl .null, rfl⟩
  | float number =>
    cases type with
    | int =>
      cases read
      exact ⟨.inr ⟨rfl, number, rfl⟩, rfl⟩
    | decimal =>
      simp only [Literal.coerce] at read
      split at read <;> cases read
      exact ⟨.inl .decimal, rfl⟩
    | float =>
      cases read
      exact ⟨.inl .float, rfl⟩
    | _ => cases read
  | string text =>
    cases type with
    | string =>
      cases read
      exact ⟨.inl .string, rfl⟩
    | decimal | date | timestamp | uuid =>
      obtain ⟨conforms, present⟩ := parse_conforms (Outcome.mapError_eq_ok.1 read)
      exact ⟨.inl conforms, present⟩
    | _ => cases read
  | _ =>
    cases type <;> cases read
    all_goals exact ⟨.inl (by constructor), rfl⟩

/-- Values of an ordered type have an order beside each other, except for null and NaN. -/
theorem Conforms.compare?_isSome {type : DataType} {actual bound : Value}
    (conforms : Conforms type actual) (ordered : type.isOrdered = true)
    (beside : Conforms type bound ∨ type = .int ∧ ∃ number, bound = .float number)
    (present : actual.isNull = false) (given : bound.isNull = false)
    (number : actual.isNaN = false) (other : bound.isNaN = false) :
    (actual.compare? bound).isSome = true := by
  -- Kinds that go together always compare, up to the one number that has no place.
  rcases beside with same | ⟨rfl, value, rfl⟩
  · cases conforms with
    | null => cases present
    | float =>
      cases same with
      | null => cases given
      | float => exact float_compare?_isSome number other
    | int | decimal | date | timestamp =>
      cases same with
      | null => cases given
      | _ => rfl
    | boolean | string | uuid | list _ | record _ => cases ordered
  · cases conforms with
    | null => cases present
    | int => exact compareIntFloat?_isSome other

end Value

end RecordFilter
