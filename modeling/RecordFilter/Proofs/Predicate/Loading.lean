import RecordFilter.Proofs.Filter.Path
import RecordFilter.Proofs.Predicate.Field
import RecordFilter.Proofs.Value.Loading

/-! A field that was loaded from a JSON scalar, asked whether it equals that scalar. -/

namespace RecordFilter

/-- The condition that a field equals something, as it is written. -/
def Json.equality (field : String) (json : Json) : Json :=
  .object [("kind", .string "condition"), ("path", .string field), ("operator", .string "Equal"),
    ("value", json)]

/-- The records of one field. -/
def Schema.ofField (name field : String) (type : DataType) : Schema :=
  ⟨name, [(field, type)]⟩

/-- Scalar types are no types of lists. -/
theorem DataType.isList_of_scalar {type : DataType} (scalar : type.isScalar = true) :
    type.isList = false := by
  cases type <;> first | rfl | cases scalar

namespace Path.Leads

variable {segments : List Segment} {type reached : DataType} {entered : Bool}

/-- A path leads nowhere from a scalar but to the scalar itself. -/
theorem of_scalar (scalar : type.isScalar = true) (leads : Leads segments type entered reached) :
    segments = [] ∧ reached = type := by
  -- Each step would have to start from a list or a record.
  cases leads with
  | done => exact ⟨rfl, rfl⟩
  | enter | field | item => cases scalar

/-- From records of one scalar field a path leads to that field, unless it ends before. -/
theorem of_field {name field : String} (scalar : type.isScalar = true) (further : segments ≠ [])
    (leads : Leads segments (Schema.ofField name field type).type entered reached) :
    ∃ sought, segments = [⟨sought, none⟩] ∧
      (Schema.ofField name field type).field? sought = some (field, type) := by
  -- The schema is one record of one scalar field, so a path has one plain segment naming it.
  have only : ∀ {sought spelling : String} {other : DataType},
      Fields.lookup? sought [(field, type)] = some (spelling, other) →
        spelling = field ∧ other = type := fun found => by
    simpa using Fields.mem_of_lookup? found
  -- The schema's type is hidden behind a name, so that `cases` can take the path apart.
  generalize focus : (Schema.ofField name field type).type = start at leads
  cases leads with
  | done => exact absurd rfl further
  | enter => cases focus
  | @field segment rest _ spelling _ other _ _ plain found leads =>
    cases focus
    obtain ⟨rfl, rfl⟩ := only found
    obtain ⟨rfl, -⟩ := leads.of_scalar scalar
    obtain ⟨sought, index⟩ := segment
    cases plain
    exact ⟨sought, rfl, found⟩
  | item _ found =>
    cases focus
    obtain ⟨-, rfl⟩ := only found
    cases scalar

end Path.Leads

/-- A record of one field holds what the member of that name was converted to. -/
theorem Record.ofJson_field {name field : String} {type : DataType} {json : Json} {record : Record}
    (converted : Record.ofJson (Schema.ofField name field type) (.object [(field, json)]) =
      .ok record) :
    ∃ value, Value.convert (.member .root field) type json = .ok value ∧
      record.getExact? field = some value := by
  -- With one declared field the conversion is one turn of its loop.
  have member : Json.member? field [(field, json)] = some json := by
    simp [Json.member?]
  simp only [Record.ofJson, Schema.ofField, Value.convertFields, member] at converted
  obtain ⟨value, made, done⟩ := Outcome.bind_eq_ok.1 converted
  refine ⟨value, made, ?_⟩
  rw [← Except.ok.inj done, Record.getExact?, Record.set, Fields.getExact?_set, if_pos rfl]

namespace Filter

/-- What is read of a field that equals something asks for a literal, unless that is a filter. -/
theorem ofJson?_equality {field : String} {json : Json} {filter : Filter}
    (read : ofJson? true (.equality field json) = some filter) :
    (∃ body, filter = nested field .equal body false) ∨
      ∃ given, filter = condition field .equal given false ∧
        Literal.ofJson? json = some (given.getD .null) := by
  -- The three forms an equality value takes (null, an object that is a body, a literal) are read
  -- apart by `argument?`.
  obtain ⟨argument, found, rfl⟩ : ∃ argument, argument? json = some argument ∧
      ofArgument field .equal argument false = filter := by
    simp only [Json.equality, ofJson?, kindOf?, ofKind?, kind?, conditionMembers?, Json.fill?,
      textOf?] at read
    cases found : argument? json with
    | none =>
      rw [found] at read
      cases read
    | some argument =>
      rw [found] at read
      exact ⟨argument, rfl, Option.some.inj read⟩
  cases json with
  | null =>
    cases found
    exact .inr ⟨none, rfl, rfl⟩
  | object members =>
    simp only [argument?, Option.map_eq_some_iff] at found
    obtain ⟨body, -, rfl⟩ := found
    exact .inl ⟨body, rfl⟩
  | _ =>
    simp only [argument?, Option.map_eq_some_iff] at found
    obtain ⟨literal, written, rfl⟩ := found
    exact .inr ⟨some literal, rfl, written⟩

/-- Only null is compared with a record as a whole, which it does not equal. -/
theorem test_whole {settings : Settings} {schema : Schema} {given : Option Literal}
    {predicate : Predicate}
    (compiled : (condition "" .equal given false).compile settings schema = .ok predicate)
    (record : Record) : given.getD .null = .null ∧ predicate.test record = false := by
  obtain ⟨plan, planned, rfl⟩ := Outcome.map_eq_ok.1 compiled
  obtain ⟨-, path, entered, reached, operand, good, leads, built, rfl⟩ :=
    plan_condition_eq_ok.1 planned
  obtain rfl := Except.ok.inj good
  cases leads
  -- No literal but null stands for anything beside records.
  generalize given.getD .null = literal at built
  cases built with
  | value read =>
    cases literal <;> cases read
    exact ⟨rfl, rfl⟩

/-- A field that is no list is compared with what the literal becomes beside its type. -/
theorem test_equality {settings : Settings} {schema : Schema} {path name spelling : String}
    {type : DataType} {given : Option Literal} {predicate : Predicate}
    (read : Path.read path = .ok ⟨[⟨name, none⟩]⟩)
    (declared : schema.field? name = some (spelling, type)) (single : type.isList = false)
    (compiled : (condition path .equal given false).compile settings schema = .ok predicate) :
    ∃ bound, (given.getD .null).coerce type = .ok bound ∧ ∀ record : Record,
      predicate.test record = ((record.getExact? spelling).getD .null).equal bound := by
  -- A field off the lists is one leaf, so the operator is asked of the field's value.
  have accepted := ((compiles_field_iff read declared).1 ⟨_, compiled⟩).2
  simp only [Operator.Accepts, Operator.demand, DataType.core_of_single single] at accepted
  obtain ⟨bound, coerced⟩ := Literal.exists_coerce.2 accepted
  refine ⟨bound, coerced, fun record => ?_⟩
  rw [test_field read declared single compiled]
  simp [Operator.asks, Literal.equals, coerced, Except.toOption]

/-- A field equals the scalar it was loaded from, but for null under no name and rounded decimals. -/
theorem compile_loaded_iff {settings : Settings} {name field : String} {type : DataType}
    {json : Json} {filter : Filter} {predicate : Predicate} {record : Record}
    (scalar : type.isScalar = true) (known : json ≠ .number (.float .nan))
    (read : ofJson? true (.equality field json) = some filter)
    (compiled : filter.compile settings (.ofField name field type) = .ok predicate)
    (converted : Record.ofJson (.ofField name field type) (.object [(field, json)]) = .ok record) :
    predicate.test record = true ↔
      (field = "" → json ≠ .null) ∧
        (type = .decimal → ∀ number, json = .number number → number.int64? = none →
          (record.getExact? field).bind Value.quantity? = number.double.value?) := by
  obtain ⟨value, made, held⟩ := Record.ofJson_field converted
  obtain ⟨plan, planned, -⟩ := Outcome.map_eq_ok.1 compiled
  rcases ofJson?_equality read with ⟨body, rfl⟩ | ⟨given, rfl, written⟩
  · cases (plan_nested_eq_ok.1 planned).1
  obtain ⟨-, path, entered, reached, operand, good, leads, -, -⟩ := plan_condition_eq_ok.1 planned
  by_cases unnamed : field = ""
  · -- The empty path leads to the record as a whole, which is not null.
    subst unnamed
    obtain ⟨compared, rejected⟩ := test_whole compiled record
    rw [compared] at written
    simp [rejected, Literal.eq_null_of_ofJson? written]
  · have further := Path.segments_ne_nil good unnamed
    obtain ⟨sought, single, declared⟩ := leads.of_field scalar further
    obtain rfl : path = ⟨[⟨sought, none⟩]⟩ := congrArg Path.mk single
    obtain ⟨bound, coerced, answer⟩ := test_equality good declared
      (DataType.isList_of_scalar scalar) compiled
    rw [answer record, held, Option.getD_some, Option.bind_some,
      Value.equal_loaded_iff scalar known made written coerced]
    exact (and_iff_right fun empty => absurd empty unnamed).symm

/-- Five is loaded as the same decimal that the condition asks for. -/
theorem compile_loaded_five :
    ∃ (filter : Filter) (predicate : Predicate) (record : Record),
      ofJson? true (.equality "amt" (.number (.integer 5))) = some filter ∧
      filter.compile .standard (.ofField "Order" "amt" .decimal) = .ok predicate ∧
      Record.ofJson (.ofField "Order" "amt" .decimal)
        (.object [("amt", .number (.integer 5))]) = .ok record ∧
      predicate.test record = true := by
  -- Five is written without a fraction, so the literal and the value are the same integer.
  have read : ofJson? true (.equality "amt" (.number (.integer 5))) =
      some (condition "amt" .equal (some (.int 5)) false) := rfl
  obtain ⟨predicate, compiled⟩ : ∃ predicate,
      (condition "amt" .equal (some (.int 5)) false).compile .standard
        (.ofField "Order" "amt" .decimal) = .ok predicate := ⟨_, rfl⟩
  have converted : Record.ofJson (.ofField "Order" "amt" .decimal)
      (.object [("amt", .number (.integer 5))]) = .ok ⟨[("amt", .decimal (.ofInt 5))]⟩ := rfl
  have known : Json.number (.integer 5) ≠ .number (.float .nan) := nofun
  refine ⟨_, predicate, _, read, compiled, converted, ?_⟩
  refine (compile_loaded_iff rfl known read compiled converted).2 ⟨nofun, ?_⟩
  rintro - number is wide
  cases is
  exact absurd wide (by decide)

/-- A tenth is no double, so a decimal that is loaded as one does not equal the tenth of a condition. -/
theorem compile_loaded_tenth :
    ∃ (tenth : Double) (filter : Filter) (predicate : Predicate) (record : Record),
      tenth.jsonText? = some "0.1" ∧
      ofJson? true (.equality "amt" (.number (.float tenth))) = some filter ∧
      filter.compile .standard (.ofField "Order" "amt" .decimal) = .ok predicate ∧
      Record.ofJson (.ofField "Order" "amt" .decimal)
        (.object [("amt", .number (.float tenth))]) = .ok record ∧
      predicate.test record = false := by
  -- The literal becomes the float's exact decimal, the record's value the decimal of its text; the
  -- run is evaluated whole.
  let tenth : Double := .finite false ⟨4591870180066957722, by decide⟩
  let filter : Filter := .condition "amt" .equal (some (.float tenth)) false
  let schema : Schema := .ofField "Order" "amt" .decimal
  have outcome : ((filter.compile .standard schema).toOption.bind fun predicate =>
      (Record.ofJson schema (.object [("amt", .number (.float tenth))])).toOption.map
        predicate.test) = some false := by
    decide +kernel
  cases compiled : filter.compile .standard schema with
  | error cause => simp [compiled, Except.toOption] at outcome
  | ok predicate =>
    cases converted : Record.ofJson schema (.object [("amt", .number (.float tenth))]) with
    | error cause => simp [compiled, converted, Except.toOption] at outcome
    | ok record =>
      simp only [compiled, converted, Except.toOption, Option.bind_some, Option.map_some,
        Option.some.injEq] at outcome
      exact ⟨tenth, filter, predicate, record, by decide +kernel, rfl, compiled, converted, outcome⟩

end Filter

end RecordFilter
