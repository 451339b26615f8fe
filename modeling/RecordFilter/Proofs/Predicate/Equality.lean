import RecordFilter.Proofs.Predicate.Whole
import RecordFilter.Proofs.Value.Equality

/-! Predicates respect equality: no filter tells records apart that are equal by what they declare. -/

namespace RecordFilter

namespace Value

variable {type element : DataType} {value other : Value}

/-- An operator asks alike about scalars of which neither comes before the other. -/
theorem asks_congr {settings : Settings} {operator : Operator} {literal : Literal}
    (conforms : Conforms type value) (conformsOther : Conforms type other)
    (same : value.compare? other = some .eq) :
    operator.asks settings type literal value = operator.asks settings type literal other := by
  -- Whatever a literal stands for, it has one order beside both values.
  have compared : ∀ {literal : Literal} {bound : Value}, literal.coerce type = .ok bound →
      value.compare? bound = other.compare? bound := fun read =>
    conforms.compare?_congr conformsOther same (coerce_conforms read).1
  have turned : other.compare? value = some .eq := compare?_eq_comm.1 same
  have null := isNull_of_compare? same
  have nullOther := isNull_of_compare? turned
  have equals : ∀ literal : Literal, literal.equals type value = literal.equals type other := by
    intro literal
    unfold Literal.equals
    cases read : literal.coerce type with
    | error => rfl
    | ok bound =>
      show value.equal bound = other.equal bound
      rw [equal_eq_compare? (isScalar_of_compare? same),
        equal_eq_compare? (isScalar_of_compare? turned), compared read]
  have ranks : ∀ acceptable,
      literal.ranks type acceptable value = literal.ranks type acceptable other := by
    intro acceptable
    unfold Literal.ranks
    cases read : literal.coerce type with
    | error => rfl
    | ok bound =>
      show (value.compare? bound).any acceptable = (other.compare? bound).any acceptable
      rw [compared read]
  have texts : value.text? = other.text? := conforms.text?_congr conformsOther same
  cases operator <;> simp only [Operator.asks, Literal.lists, Literal.compares, Literal.occurs,
    equals, ranks, texts, null, nullOther]

namespace Restated

/-- The items of restated lists are restated, place by place. -/
theorem entries (restated : Restated (.list element) value other) :
    Matched (Restated element) value.entries other.entries := by
  -- A scalar type has no list to take apart, so only lists and equal values are left.
  cases restated with
  | same => exact .of_forall₂ (List.forall₂_same.2 fun _ _ => .same)
  | scalar scalar => cases scalar
  | list length each => exact .of_forall₂ (List.forall₂_iff_get.2 ⟨length, each⟩)

/-- What restated records hold under a declared name is restated. -/
theorem member {name sought field : String} {declared : List (String × DataType)}
    (found : Fields.lookup? sought declared = some (field, type))
    (restated : Restated (.record name declared) value other) :
    Restated type (value.member field) (other.member field) := by
  -- Names are looked up exactly here, and what is missing stands for null on both sides.
  cases restated with
  | same => exact .same
  | scalar scalar => cases scalar
  | record each => exact each sought field type found

/-- Restated lists have restated items at a place, and where one has none neither has the other. -/
theorem entry (place : UInt64) (restated : Restated (.list element) value other) :
    Restated element (value.entry place) (other.entry place) := by
  -- Past the end both sides are null.
  cases restated with
  | same => exact .same
  | scalar scalar => cases scalar
  | list length each =>
    exact forall₂_getElem? (List.forall₂_iff_get.2 ⟨length, each⟩) .same place.toNat

/-- No filter tells restated values apart. -/
theorem indiscernible (settings : Settings) : Indiscernible settings Restated where
  entries := entries
  member := member
  entry := entry
  isNull restated := by
    cases restated with
    | scalar _ _ _ same =>
      rw [isNull_of_compare? same, isNull_of_compare? (compare?_eq_comm.1 same)]
    | _ => rfl
  asks := by
    intro operator type literal value other single accepted restated
    cases restated with
    | same => rfl
    -- Values that compare equal answer every comparison alike.
    | scalar _ conforms conformsOther same => exact asks_congr conforms conformsOther same
    | list => exact absurd rfl (single _)
    | record => exact asks_composite rfl rfl

end Restated

end Value

namespace Filter

/-- No predicate tells records apart that an unambiguous schema makes equal, nor any that are restated. -/
theorem compile_equal {settings : Settings} {schema : Schema} {filter : Filter}
    {predicate : Predicate} (compiled : filter.compile settings schema = .ok predicate) :
    (schema.type.Unambiguous → ∀ record other : Record,
        Value.Conforms schema.type (.record record.fields) →
        Value.Conforms schema.type (.record other.fields) →
        Value.Spelled schema.type (.record record.fields) →
        Value.Spelled schema.type (.record other.fields) →
        record.equal other = true → predicate.test record = predicate.test other) ∧
      ∀ record other : Record,
        Value.Restated schema.type (.record record.fields) (.record other.fields) →
        predicate.test record = predicate.test other := by
  have formed : WellFormed settings schema.type filter :=
    compiles_iff_wellFormed.1 ⟨predicate, compiled⟩
  have alike : ∀ record other : Record,
      Value.Restated schema.type (.record record.fields) (.record other.fields) →
      predicate.test record = predicate.test other := by
    intro record other restated
    calc predicate.test record
        = filter.reading settings schema.type (.record record.fields) :=
          test_eq_reading compiled record
      _ = filter.reading settings schema.type (.record other.fields) :=
          (Value.Restated.indiscernible settings).reading_eq formed restated
      _ = predicate.test other := (test_eq_reading compiled other).symm
  refine ⟨?_, alike⟩
  -- What equality makes of the two records is a restatement of one as the other.
  intro unambiguous record other conforms conformsOther spelled spelledOther same
  have level : Value.Level schema.type (.record record.fields) (.record other.fields) :=
    ⟨unambiguous, conforms, conformsOther, spelled, spelledOther, same⟩
  exact alike record other level.restated

/-- A price of another scale, a change of another sign, a note that is missing, and another order. -/
theorem compile_equal_order :
    let schema : Schema := ⟨"Order", [("price", .decimal), ("change", .float), ("note", .string)]⟩
    let zero (negative : Bool) : Value := .float (.finite negative ⟨0, by decide⟩)
    let record : Record :=
      ⟨[("price", .decimal ⟨150, 2⟩), ("change", zero false), ("note", .null)]⟩
    let other : Record := ⟨[("change", zero true), ("price", .decimal ⟨15, 1⟩)]⟩
    ∃ predicate : Predicate,
      (group .or true [condition "Change" .lessThan (some (.int 0)) false,
        condition "price" .notIn (some (.list [.string "1.5", .null])) false,
        condition "note" .notNull none false]).compile .standard schema = .ok predicate ∧
      predicate.test record = predicate.test other := by
  intro schema zero record other
  -- All fields are scalars, so only their names have to be spelled as declared.
  have scalar : ∀ field ∈ schema.fields, field.2.isScalar = true := by decide
  have spelled : ∀ held : Record, (∀ field ∈ held.fields, field.1 ∈ Fields.names schema.fields) →
      Value.Spelled schema.type (.record held.fields) := by
    intro held known
    exact .record known fun _ _ _ found _ _ => .scalar (scalar _ (Fields.mem_of_lookup? found))
  have conforms : Value.Conforms schema.type (.record record.fields) := by
    refine .of_declared fun field member value held => ?_
    simp only [schema, List.mem_cons, List.not_mem_nil, or_false] at member
    rcases member with rfl | rfl | rfl <;> cases held <;> constructor
  have conformsOther : Value.Conforms schema.type (.record other.fields) := by
    refine .of_declared fun field member value held => ?_
    simp only [schema, List.mem_cons, List.not_mem_nil, or_false] at member
    rcases member with rfl | rfl | rfl <;> cases held <;> constructor
  have unambiguous : schema.type.Unambiguous :=
    .record (by decide +kernel) fun field member => .scalar (scalar field member) trivial
  refine Exists.imp (fun predicate compiled => ⟨compiled, ?_⟩) ⟨_, rfl⟩
  exact (compile_equal compiled).1 unambiguous record other conforms conformsOther
    (spelled record (by decide +kernel)) (spelled other (by decide +kernel)) (by decide +kernel)

end Filter

end RecordFilter
