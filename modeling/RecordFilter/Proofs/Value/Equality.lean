import Mathlib.Data.List.Forall2
import RecordFilter.Proofs.Fields
import RecordFilter.Proofs.Value.Loading
import RecordFilter.Proofs.Value.Standing

/-! Equal values under a type: what equality says of their parts, and that orders do not tell scalars apart. -/

namespace RecordFilter

/-- No two fields of a record type anywhere in the type agree in any ASCII case. -/
def DataType.Unambiguous : DataType → Prop :=
  Everywhere (fun _ => True) Fields.Unlike

/-- Dates of the same order are the same date. -/
instance Date.lawfulEqCmp : Std.LawfulEqCmp Date.compare where
  eq_of_compare {day other} same := by
    -- The first difference would decide, so year, month and day are equal in turn.
    simp only [Date.compare, Ordering.then_eq_eq, Std.LawfulEqOrd.compare_eq_iff_eq] at same
    obtain ⟨years, months, days⟩ := same
    cases day
    cases other
    simp_all only

/-- Timestamps of the same order are the same moment, written in one way. -/
instance Timestamp.lawfulEqCmp : Std.LawfulEqCmp Timestamp.compare where
  eq_of_compare {time other} same := by
    -- Date, second and nanosecond are all that there is of a timestamp.
    simp only [Timestamp.compare, Ordering.then_eq_eq, Std.LawfulEqOrd.compare_eq_iff_eq] at same
    obtain ⟨dates, seconds, nanoseconds⟩ := same
    have day : time.date = other.date := Std.LawfulEqCmp.eq_of_compare dates
    cases time
    cases other
    simp_all [Fin.ext_iff]

/-- Identifiers of the same order have the same bits. -/
instance Uuid.lawfulEqCmp : Std.LawfulEqCmp Uuid.compare where
  eq_of_compare {identifier other} same := by
    have bits := BitVec.eq_of_toNat_eq (Std.LawfulEqOrd.eq_of_compare same)
    cases identifier
    cases other
    exact congrArg Uuid.mk bits

/-- Doubles of the same order stand alike beside all others, whatever signs their zeros have. -/
theorem Double.compare?_congr {left right : Double} (same : left.compare? right = some .eq)
    (bound : Double) : left.compare? bound = right.compare? bound := by
  -- All that counts are positions, which are equal when they exist.
  have level : left.position? = right.position? := by
    unfold compare? at same
    cases placed : left.position? with
    | none => simp [placed] at same
    | some here =>
      cases beside : right.position? with
      | none => simp [placed, beside] at same
      | some there =>
        rw [placed, beside] at same
        exact congrArg some (Std.LawfulEqOrd.eq_of_compare (Option.some.inj same))
  rw [compare?, compare?, level]

namespace Value

/-- Records in the value have fields that are declared, under the names that the schema spells. -/
inductive Spelled : DataType → Value → Prop
  | scalar {type : DataType} {value : Value} (scalar : type.isScalar = true) : Spelled type value
  | null {type : DataType} : Spelled type .null
  | list {element : DataType} {items : List Value} (every : ∀ item ∈ items, Spelled element item) :
      Spelled (.list element) (.list items)
  | record {name : String} {declared : List (String × DataType)} {fields : List (String × Value)}
      (known : ∀ field ∈ fields, field.1 ∈ Fields.names declared)
      (every : ∀ sought field type, Fields.lookup? sought declared = some (field, type) →
        ∀ value, Fields.getExact? field fields = some value → Spelled type value) :
      Spelled (.record name declared) (.record fields)

/-- The same in another form: fields in another order or null where they were missing, numbers written differently. -/
inductive Restated : DataType → Value → Value → Prop
  | same {type : DataType} {value : Value} : Restated type value value
  -- Decimals of different scale and zeros of different sign are the scalars that this is about.
  | scalar {type : DataType} {value other : Value} (scalar : type.isScalar = true)
      (conforms : Conforms type value) (conformsOther : Conforms type other)
      (same : value.compare? other = some .eq) : Restated type value other
  | list {element : DataType} {items others : List Value}
      (length : items.length = others.length)
      (each : ∀ place (inside : place < items.length) (beside : place < others.length),
        Restated element (items.get ⟨place, inside⟩) (others.get ⟨place, beside⟩)) :
      Restated (.list element) (.list items) (.list others)
  | record {name : String} {declared : List (String × DataType)}
      {fields others : List (String × Value)}
      (each : ∀ sought field type, Fields.lookup? sought declared = some (field, type) →
        Restated type ((Fields.getExact? field fields).getD .null)
          ((Fields.getExact? field others).getD .null)) :
      Restated (.record name declared) (.record fields) (.record others)

variable {type element : DataType} {value other bound : Value}

/-- The items of a list that is spelled are spelled. -/
theorem Spelled.items {items : List Value} (spelled : Spelled (.list element) (.list items)) :
    ∀ item ∈ items, Spelled element item := by
  -- A list is no scalar.
  cases spelled with
  | scalar scalar => cases scalar
  | list every => exact every

/-- The fields of a record that is spelled are declared. -/
theorem Spelled.known {name : String} {declared : List (String × DataType)}
    {fields : List (String × Value)} (spelled : Spelled (.record name declared) (.record fields)) :
    ∀ field ∈ fields, field.1 ∈ Fields.names declared := by
  -- A record is no scalar.
  cases spelled with
  | scalar scalar => cases scalar
  | record known _ => exact known

/-- What a record that is spelled holds under a declared name is spelled, also when it is missing. -/
theorem Spelled.field {name sought field : String} {declared : List (String × DataType)}
    {fields : List (String × Value)} (spelled : Spelled (.record name declared) (.record fields))
    (found : Fields.lookup? sought declared = some (field, type)) :
    Spelled type ((Fields.getExact? field fields).getD .null) := by
  -- An absent field counts as null, which is spelled as any type asks.
  cases spelled with
  | scalar scalar => cases scalar
  | record _ every =>
    cases held : Fields.getExact? field fields with
    | none => exact .null
    | some value => exact every sought field type found value held

/-- Lists are equal when their items are, place by place. -/
theorem equal_list_iff {items others : List Value} :
    (list items).equal (.list others) = true ↔
      List.Forall₂ (fun item other => item.equal other = true) items others := by
  rw [equal]
  -- A list that ends before the other one is equal to it by neither account.
  induction items generalizing others with
  | nil => cases others <;> simp [equalItems]
  | cons item rest ih => cases others <;> simp [equalItems, ih]

/-- The tests of a record are those of its fields, under their names. -/
theorem tests_eq_map (fields : List (String × Value)) :
    tests fields = fields.map fun field => (field.1, field.2.equal) := by
  -- `tests` is the map that the termination checker would not see through.
  induction fields with
  | nil => rfl
  | cons field rest ih => rw [tests, ih, List.map_cons]

/-- Records are equal when each field of either is equal to what the other one has under its name. -/
theorem equal_record_iff {fields others : List (String × Value)} :
    (record fields).equal (.record others) = true ↔
      (∀ field ∈ fields, field.2.equal ((Fields.get? field.1 others).getD .null) = true) ∧
        ∀ other ∈ others, ((Fields.get? other.1 fields).getD .null).equal other.2 = true := by
  -- Under a name that the first record lacks, the test is that of being null.
  have tested : ∀ other : String × Value,
      (Fields.get? other.1 (fields.map fun field => (field.1, field.2.equal))).getD isNull other.2 =
        ((Fields.get? other.1 fields).getD .null).equal other.2 := by
    intro other
    rw [Fields.get?_map]
    cases Fields.get? other.1 fields with
    | none => exact (equal.eq_1 other.2).symm
    | some held => rfl
  simp only [equal, Bool.and_eq_true, List.all_eq_true, tests_eq_map, List.forall_mem_map, tested]

/-- A value is equal to null when it is null itself. -/
theorem equal_null (value : Value) : value.equal .null = value.isNull := by
  cases value <;> rfl

/-- The order of two lists does not count for their equality, if that of their items does not. -/
theorem equalItems_comm {items others : List Value}
    (each : ∀ item ∈ items, ∀ other : Value, item.equal other = other.equal item) :
    equalItems items others = equalItems others items := by
  -- Both lists are walked together, so their items meet in the same pairs.
  induction items generalizing others with
  | nil => cases others <;> rfl
  | cons item rest ih =>
    obtain ⟨first, later⟩ := List.forall_mem_cons.1 each
    cases others with
    | nil => rfl
    | cons other others => rw [equalItems, equalItems, first, ih later]

/-- The order of two records does not count for their equality, if that of what they hold does not. -/
theorem equal_record_comm {fields others : List (String × Value)}
    (each : ∀ field ∈ fields, ∀ other : Value, field.2.equal other = other.equal field.2) :
    (record fields).equal (.record others) = (record others).equal (.record fields) := by
  have held : ∀ other : String × Value, ((Fields.get? other.1 fields).getD .null).equal other.2 =
      other.2.equal ((Fields.get? other.1 fields).getD .null) := by
    intro other
    cases found : Fields.get? other.1 fields with
    | none => exact (equal.eq_1 other.2).trans (equal_null other.2).symm
    | some value =>
      obtain ⟨field, located, rfl⟩ := Option.map_eq_some_iff.1 found
      exact each field (Fields.mem_of_lookup? located) other.2
  -- Both sides say the same of either record, in one order or the other.
  rw [Bool.eq_iff_iff, equal_record_iff, equal_record_iff, and_comm]
  exact and_congr (forall₂_congr fun other _ => by rw [held])
    (forall₂_congr fun field member => by rw [each field member])

/-- Which of two values comes first does not count for their equality. -/
theorem equal_comm (value other : Value) : value.equal other = other.equal value := by
  induction value using byParts generalizing other with
  | null => exact (equal.eq_1 other).trans (equal_null other).symm
  | list items ih =>
    cases other with
    | list others => exact equalItems_comm ih
    | null => exact (equal_null _).trans (equal.eq_1 _).symm
    | _ => rfl
  | record fields ih =>
    cases other with
    | record others => exact equal_record_comm ih
    | null => exact (equal_null _).trans (equal.eq_1 _).symm
    | _ => rfl
  | scalar value scalar =>
    cases other with
    | null => exact (equal_null _).trans (equal.eq_1 _).symm
    | list | record => cases value <;> first | rfl | cases scalar
    | _ =>
      -- Equality of scalars is read off their order, which may be turned around.
      rw [Bool.eq_iff_iff, equal_eq_compare? scalar, equal_eq_compare? rfl]
      exact beq_iff_eq.trans (compare?_eq_comm.trans beq_iff_eq.symm)

/-- Values that are equal are null together. -/
theorem isNull_of_equal (same : value.equal other = true) : value.isNull = other.isNull := by
  -- Null is equal to nothing else, and nothing else has an order beside it.
  cases value with
  | null =>
    rw [equal] at same
    exact same.symm
  | _ => cases other <;> first | rfl | cases same

/-- What has an order beside something is not null. -/
theorem isNull_of_compare? {order : Ordering} (answered : value.compare? other = some order) :
    value.isNull = false := by
  -- On null `compare?` answers none, whatever stands beside it.
  cases value with
  | null => cases other <;> cases answered
  | _ => rfl

/-- What conforms to the type of a scalar is one, unless it is null. -/
theorem Conforms.isScalar (scalar : type.isScalar = true) (conforms : Conforms type value)
    (present : value.isNull = false) : value.isScalar = true := by
  -- By the cases of conforming: the one for null is excluded, those for lists and records have
  -- other types.
  cases conforms with
  | null => cases present
  | list | record => cases scalar
  | _ => rfl

/-- Scalars of one type that have the same order have the same one beside whatever stands beside the type. -/
theorem Conforms.compare?_congr (conforms : Conforms type value)
    (conformsOther : Conforms type other) (same : value.compare? other = some .eq)
    (beside : Conforms type bound ∨ type = .int ∧ ∃ number, bound = .float number) :
    value.compare? bound = other.compare? bound := by
  -- Numbers may be written in more than one way, and all other kinds leave no choice.
  cases conforms with
  | null | list | record => cases conformsOther <;> cases same
  | float =>
    cases conformsOther with
    | null => cases same
    | float =>
      rcases beside with conforms | ⟨wrong, -⟩
      · cases conforms with
        | null => rfl
        | float => exact Double.compare?_congr same _
      · cases wrong
  | @decimal number =>
    cases conformsOther with
    | null => cases same
    | @decimal second =>
      have level : number.value = second.value := by
        rw [compare?, Option.some_inj, Decimal.compare_eq, cmp_eq_eq_iff] at same
        exact same
      rcases beside with conforms | ⟨wrong, -⟩
      · cases conforms with
        | null => rfl
        | decimal => rw [compare?, compare?, Decimal.compare_eq, Decimal.compare_eq, level]
      · cases wrong
  | int =>
    cases conformsOther with
    | null => cases same
    | int =>
      have whole := Std.LawfulEqCmp.eq_of_compare (Option.some.inj same)
      rw [Int64.toInt_inj.1 whole]
  | boolean | string | date | timestamp | uuid =>
    cases conformsOther with
    | null => cases same
    | _ => rw [Std.LawfulEqCmp.eq_of_compare (Option.some.inj same)]

/-- Scalars of one type that have the same order are the same text, if they are texts. -/
theorem Conforms.text?_congr (conforms : Conforms type value)
    (conformsOther : Conforms type other) (same : value.compare? other = some .eq) :
    value.text? = other.text? := by
  -- The order of texts goes by all of their characters.
  cases conforms with
  | string =>
    cases conformsOther with
    | null => cases same
    | string => rw [Std.LawfulEqCmp.eq_of_compare (Option.some.inj same)]
  | _ => cases conformsOther <;> first | rfl | cases same

/-- Equal values of a type, both spelled as it declares, where no case of letters leaves a choice. -/
structure Level (type : DataType) (value other : Value) : Prop where
  unambiguous : type.Unambiguous
  conforms : Conforms type value
  conformsOther : Conforms type other
  spelled : Spelled type value
  spelledOther : Spelled type other
  equal : value.equal other = true

namespace Level

/-- Level values are null together. -/
theorem isNull (level : Level type value other) : value.isNull = other.isNull :=
  isNull_of_equal level.equal

/-- Level values of a list type are lists of level items, or both are missing. -/
theorem list_cases (level : Level (.list element) value other) :
    value = .null ∧ other = .null ∨ ∃ items others, value = .list items ∧ other = .list others ∧
      List.Forall₂ (Level element) items others := by
  -- What conforms to a list type is a list or null, and level values are null together.
  have null := level.isNull
  cases level.conforms with
  | null => exact .inl ⟨rfl, eq_null null.symm⟩
  | list every =>
    cases level.conformsOther with
    | null => cases null
    | list everyOther =>
      -- All that is known of the lists is known of the items at each place.
      have each := List.forall₂_iff_get.1 (equal_list_iff.1 level.equal)
      refine .inr ⟨_, _, rfl, rfl, List.forall₂_iff_get.2 ⟨each.1, fun place inside beside => ?_⟩⟩
      exact ⟨level.unambiguous.of_list, every _ (List.get_mem _ _), everyOther _ (List.get_mem _ _),
        level.spelled.items _ (List.get_mem _ _), level.spelledOther.items _ (List.get_mem _ _),
        each.2 place inside beside⟩

/-- Equal records that spell their fields as declared hold equal values under every declared name. -/
theorem fields_equal {fields others : List (String × Value)} {sought name : String}
    {declared : List (String × DataType)}
    (distinct : Fields.Unlike declared)
    (known : ∀ field ∈ fields, field.1 ∈ Fields.names declared)
    (knownOther : ∀ field ∈ others, field.1 ∈ Fields.names declared)
    (found : Fields.lookup? sought declared = some (name, type))
    (same : (record fields).equal (.record others) = true) :
    ((Fields.getExact? name fields).getD .null).equal
      ((Fields.getExact? name others).getD .null) = true := by
  -- Equality looks names up in any case, which among declared spellings finds them exactly.
  have exactly : ∀ held : List (String × Value), (∀ field ∈ held, field.1 ∈ Fields.names declared) →
      Fields.get? name held = Fields.getExact? name held := by
    intro held spelled
    have itself : Fields.lookup? name declared = some (name, type) := by
      rw [Fields.lookup?, Fields.lookupExact?_of_lookup? found]
      rfl
    exact Fields.get?_of_spelled distinct (fun field member _ _ _ => spelled field member) itself
  obtain ⟨each, eachOther⟩ := equal_record_iff.1 same
  cases held : Fields.getExact? name fields with
  | some value =>
    have matching := each _ (Fields.mem_of_getExact? held)
    rwa [exactly others knownOther] at matching
  | none =>
    -- What the first record lacks counts as null, and so it does in the second one.
    cases heldOther : Fields.getExact? name others with
    | some other =>
      have matching := eachOther _ (Fields.mem_of_getExact? heldOther)
      rwa [exactly fields known, held] at matching
    | none => exact equal.eq_1 .null

/-- Level values of a record type are level under every declared name, or both are missing. -/
theorem record_cases {name : String} {declared : List (String × DataType)}
    (level : Level (.record name declared) value other) :
    value = .null ∧ other = .null ∨ ∃ fields others, value = .record fields ∧
      other = .record others ∧ ∀ sought field type,
        Fields.lookup? sought declared = some (field, type) →
          Level type ((Fields.getExact? field fields).getD .null)
            ((Fields.getExact? field others).getD .null) := by
  have null := level.isNull
  cases level.conforms with
  | null => exact .inl ⟨rfl, eq_null null.symm⟩
  | record every =>
    cases level.conformsOther with
    | null => cases null
    | record everyOther =>
      -- Declared names are looked up in types, conforming records and equality all alike.
      refine .inr ⟨_, _, rfl, rfl, fun sought field type found => ?_⟩
      exact ⟨level.unambiguous.of_lookup? found, level.conforms.field found,
        level.conformsOther.field found, level.spelled.field found, level.spelledOther.field found,
        fields_equal level.unambiguous.rule_of_record level.spelled.known level.spelledOther.known found
          level.equal⟩

/-- Level values are restatements of each other. -/
theorem restated (level : Level type value other) : Restated type value other := by
  -- The induction is on the type, whose parts are those of both values.
  induction type using DataType.byParts generalizing value other with
  | scalar type scalar =>
    cases absent : value.isNull with
    | true =>
      rw [eq_null absent, eq_null (level.isNull.symm.trans absent)]
      exact .same
    | false =>
      -- For scalars that are not null, to be equal is that neither comes first.
      refine .scalar scalar level.conforms level.conformsOther ?_
      simpa [equal_eq_compare? (level.conforms.isScalar scalar absent)] using level.equal
  | list element ih =>
    obtain ⟨rfl, rfl⟩ | ⟨items, others, rfl, rfl, each⟩ := level.list_cases
    · exact .same
    · have places := List.forall₂_iff_get.1 each
      exact .list places.1 fun place inside beside => ih (places.2 place inside beside)
  | record name declared ih =>
    obtain ⟨rfl, rfl⟩ | ⟨fields, others, rfl, rfl, each⟩ := level.record_cases
    · exact .same
    · exact .record fun sought field type found =>
        ih _ (Fields.mem_of_lookup? found) (each sought field type found)

end Level

end Value

/-- Records are equal when each of them covers the other: its fields are equal to those of the same names. -/
theorem Record.equal_iff {left right : Record} :
    left.equal right = true ↔
      (∀ field ∈ left.fields, field.2.equal ((right.get? field.1).getD .null) = true) ∧
        ∀ field ∈ right.fields, field.2.equal ((left.get? field.1).getD .null) = true := by
  -- The definition has the left record first throughout, so that it goes down into its parts.
  refine Value.equal_record_iff.trans (and_congr_right fun _ => forall₂_congr fun field _ => ?_)
  rw [Value.equal_comm]
  rfl

end RecordFilter
