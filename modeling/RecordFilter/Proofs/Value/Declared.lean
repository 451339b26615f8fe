import RecordFilter.Proofs.Fields
import RecordFilter.Proofs.Value.Loading

/-! Values that agree in all that a type declares, and the edits that leave it as it was. -/

namespace RecordFilter

namespace Value

/-- Two values hold the same wherever a type declares anything; a missing field counts as null. -/
inductive Agree : DataType → Value → Value → Prop
  | scalar {type : DataType} {value : Value} (scalar : type.isScalar = true) : Agree type value value
  -- What is no list, where the type declares one, agrees with nothing but itself.
  | list {element : DataType} {items others : List Value} (length : items.length = others.length)
      (each : ∀ (place : Nat) (item other : Value), items[place]? = some item →
        others[place]? = some other → Agree element item other) :
      Agree (.list element) (.list items) (.list others)
  | noList {element : DataType} {value : Value} (single : ∀ items, value ≠ .list items) :
      Agree (.list element) value value
  -- Only fields that a lookup in the schema returns are declared.
  | record {name : String} {declared : List (String × DataType)}
      {fields others : List (String × Value)}
      (each : ∀ sought field type, Fields.lookup? sought declared = some (field, type) →
        Agree type ((Fields.getExact? field fields).getD .null)
          ((Fields.getExact? field others).getD .null)) :
      Agree (.record name declared) (.record fields) (.record others)
  | noRecord {name : String} {declared : List (String × DataType)} {value : Value}
      (plain : ∀ fields, value ≠ .record fields) : Agree (.record name declared) value value

/-- One change of a value, at any depth, in what no type declares or in how fields are written down. -/
inductive Edit : DataType → Value → Value → Prop
  -- Undeclared fields are added, changed, removed or moved in whatever way.
  | undeclared {name : String} {declared : List (String × DataType)}
      {fields others : List (String × Value)}
      (same : (fields.filter fun field => (Fields.names declared).contains field.1) =
        others.filter fun field => (Fields.names declared).contains field.1) :
      Edit (.record name declared) (.record fields) (.record others)
  | reordered {name : String} {declared : List (String × DataType)}
      {fields others : List (String × Value)} (distinct : (Fields.names fields).Nodup)
      (perm : fields.Perm others) : Edit (.record name declared) (.record fields) (.record others)
  | absent {name field : String} {declared : List (String × DataType)}
      {fields : List (String × Value)} (missing : Fields.getExact? field fields = none) :
      Edit (.record name declared) (.record fields) (.record (Fields.set field .null fields))
  -- The change may lie within a declared field or within an item of a list.
  | field {name sought field : String} {declared : List (String × DataType)} {type : DataType}
      {fields : List (String × Value)} {value other : Value}
      (found : Fields.lookup? sought declared = some (field, type))
      (held : Fields.getExact? field fields = some value) (edit : Edit type value other) :
      Edit (.record name declared) (.record fields) (.record (Fields.set field other fields))
  | item {element : DataType} {items : List Value} {place : Nat} {value other : Value}
      (held : items[place]? = some value) (edit : Edit element value other) :
      Edit (.list element) (.list items) (.list (items.set place other))

/-- Every value agrees with itself, whether or not it fits the type. -/
theorem Agree.refl (type : DataType) (value : Value) : Agree type value value := by
  -- Only a list where one is declared and a record where one is declared have parts to go into.
  induction type using DataType.byParts generalizing value with
  | scalar type scalar => exact .scalar scalar
  | list element ih =>
    by_cases list : ∃ items, value = .list items
    · obtain ⟨items, rfl⟩ := list
      refine .list rfl fun place item other held heldOther => ?_
      obtain rfl := Option.some.inj (held.symm.trans heldOther)
      exact ih item
    · exact .noList fun items same => list ⟨items, same⟩
  | record name declared ih =>
    by_cases record : ∃ fields, value = .record fields
    · obtain ⟨fields, rfl⟩ := record
      exact .record fun sought field type found => ih _ (Fields.mem_of_lookup? found) _
    · exact .noRecord fun fields same => record ⟨fields, same⟩

/-- Records that hold the same under every declared name agree. -/
theorem Agree.of_getExact? {name : String} {declared : List (String × DataType)}
    {fields others : List (String × Value)}
    (same : ∀ field ∈ Fields.names declared,
      (Fields.getExact? field fields).getD .null = (Fields.getExact? field others).getD .null) :
    Agree (.record name declared) (.record fields) (.record others) := by
  -- A lookup that ignores case ends in a declared spelling, and that one is compared.
  refine .record fun sought field type found => ?_
  rw [same field (List.mem_map.2 ⟨_, Fields.mem_of_lookup? found, rfl⟩)]
  exact refl type _

/-- An edit leaves all that the type declares as it was. -/
theorem Edit.agree {type : DataType} {value other : Value} (edit : Edit type value other) :
    Agree type value other := by
  induction edit with
  | undeclared same =>
    refine Agree.of_getExact? fun field member => ?_
    -- Declared names find the same field once all others are left out.
    have kept : (Fields.names _).contains field = true := List.contains_iff_mem.2 member
    rw [← Fields.getExact?_filter kept, same, Fields.getExact?_filter kept]
  | reordered distinct perm =>
    exact Agree.of_getExact? fun field _ => by rw [Fields.getExact?_perm distinct perm]
  | @absent name field declared fields missing =>
    refine Agree.of_getExact? fun other _ => ?_
    rw [Fields.getExact?_set]
    split
    · rename_i same
      rw [same, missing]
      rfl
    · rfl
  | @field name sought field declared type fields value other found held _ ih =>
    refine .record fun again spelling typeAgain foundAgain => ?_
    rw [Fields.getExact?_set]
    split
    · rename_i same
      subst same
      rw [held, ← Fields.lookup?_unique found foundAgain]
      exact ih
    · exact Agree.refl _ _
  | @item element items place value other held _ ih =>
    refine .list (List.length_set ..).symm fun index item another heldItem heldOther => ?_
    by_cases same : place = index
    · subst same
      obtain rfl := Option.some.inj (held.symm.trans heldItem)
      have inside : place < items.length := (List.getElem?_eq_some_iff.1 held).1
      rw [List.getElem?_set_self inside] at heldOther
      obtain rfl := Option.some.inj heldOther
      exact ih
    · rw [List.getElem?_set_ne same, heldItem] at heldOther
      obtain rfl := Option.some.inj heldOther
      exact Agree.refl _ _

end Value

end RecordFilter
