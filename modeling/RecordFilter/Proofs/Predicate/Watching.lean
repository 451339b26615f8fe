import RecordFilter.Proofs.Predicate.Typing
import RecordFilter.Proofs.Value.Conformity

/-! Watched evaluation, which stops at whatever has the wrong kind, and never has to for typed plans. -/

namespace RecordFilter

/-- What evaluation would meet if a step, a quantifier or a test came upon something of the wrong kind. -/
inductive Misfit
  | step (taken : Step) (focus : Focus)
  | elements (focus : Focus)
  | relation (operator : Operator)
  | test (asked : Test) (actual : Value)
  deriving Repr

namespace Focus

/-- Fields are for records and items for lists, and null stands in for both. -/
def admits : Step → Focus → Bool
  | .field _, .record _ | .field _, .value (.record _) | .field _, .value .null => true
  | .item _, .value (.list _) | .item _, .value .null => true
  | _, _ => false

/-- There is a list in focus, or null in its place. -/
def isCollection : Focus → Bool
  | .value (.list _) | .value .null => true
  | _ => false

end Focus

/-- The value is a text, or null in its place. -/
def Value.isTextual : Value → Bool
  | .string _ | .null => true
  | _ => false

namespace Test

/-- The operand has the form that the operator expects, and the value is one that it can ask about. -/
def isProper (test : Test) (actual : Value) : Bool :=
  -- An ordering has an answer unless null or NaN is compared.
  match test.operator.demand, test.operand with
  | .nothing, .none | .candidates, .set _ | .value, .value _ => true
  | .rank, .value bound =>
    actual.isNull || actual.isNaN || bound.isNaN || (actual.compare? bound).isSome
  | .text, .value (.string _) | .pattern, .pattern _ => actual.isTextual
  | _, _ => false

/-- Asks the operator's relation, which there has to be one of, in a proper test. -/
def watch (test : Test) (actual : Value) : Except Misfit Bool :=
  match test.operator.relation? with
  | none => .error (.relation test.operator)
  | some relation =>
    if test.isProper actual then .ok (relation actual test.operand) else .error (.test test actual)

end Test

/-- The quantifier joins results. -/
def Quantifier.join : Quantifier → List Bool → Bool
  | .all, results => results.all id
  | .any, results => results.any id

mutual
/-- Evaluates a plan under watch, all of its children included. -/
def Plan.watch (focus : Focus) : Plan → Except Misfit Bool
  | .group combinator negated children =>
    (Plan.watches focus children).map fun results => combinator.join results != negated
  | .condition probe negated => (probe.watch focus).map fun result => result != negated
/-- Evaluates several plans under watch. -/
def Plan.watches (focus : Focus) : List Plan → Except Misfit (List Bool)
  | [] => .ok []
  | child :: rest => do
    let result ← child.watch focus
    let results ← Plan.watches focus rest
    return result :: results
/-- Evaluates a probe under watch, for every element of the lists that it enters. -/
def Probe.watch (focus : Focus) : Probe → Except Misfit Bool
  | .step taken next =>
    if focus.admits taken then next.watch (focus.take taken) else .error (.step taken focus)
  | .each quantifier element =>
    if focus.isCollection then
      (focus.elements.mapM fun item => element.watch (.value item)).map quantifier.join
    else .error (.elements focus)
  | .test asked => asked.watch focus.content
  | .body plan => plan.watch focus
end

/-- Steps that all have results have them together. -/
theorem Outcome.mapM_eq_ok {function : α → Except ε β} {result : α → β} {items : List α}
    (each : ∀ item ∈ items, function item = .ok (result item)) :
    items.mapM function = .ok (items.map result) := by
  -- No item has an error, so none of the steps is left out.
  induction items with
  | nil => rfl
  | cons item rest ih =>
    rw [List.forall_mem_cons] at each
    rw [List.mapM_cons, each.1, ih each.2]
    rfl

/-- Asking a quantifier about values is joining what the test answers for each of them. -/
theorem Quantifier.join_map (quantifier : Quantifier) (test : Value → Bool) (values : List Value) :
    quantifier.join (values.map test) = quantifier.over test values := by
  -- Both quantifiers are the library's own on lists, which pass through a map.
  cases quantifier with
  | all => exact List.all_map
  | any => exact List.any_map

/-- Every operator that does not demand a body has a relation. -/
theorem Operator.relation?_isSome {operator : Operator} (plain : operator.demand ≠ .body) :
    operator.relation?.isSome = true := by
  cases operator <;> first | rfl | exact absurd rfl plain

namespace Value

/-- The values of strings are texts, or null. -/
theorem Conforms.isTextual {type : DataType} {actual : Value} (conforms : Conforms type actual)
    (isText : type.isText = true) : actual.isTextual = true := by
  cases conforms <;> first | rfl | cases isText

end Value

namespace Test

variable {settings : Settings} {type : DataType} {test : Test} {actual : Value}

/-- A test that fits a type is proper for every value of the type. -/
theorem Fits.isProper (fits : test.Fits settings type) (conforms : Value.Conforms type actual) :
    test.isProper actual = true := by
  -- The form of the operand is the one that the demand asks for, by the way it was made.
  obtain ⟨operator, operand⟩ := test
  obtain ⟨literal, built⟩ := fits
  unfold Test.isProper
  simp only at built ⊢
  generalize operator.demand = demand at built
  cases built with
  | nothing | candidates | value => rfl
  | text isText | pattern isText => exact conforms.isTextual isText
  | rank ordered given read =>
    rename_i bound
    obtain ⟨beside, sameNull⟩ := Value.coerce_conforms read
    show (actual.isNull || actual.isNaN || bound.isNaN || (actual.compare? bound).isSome) = true
    -- Null and NaN are let through, and for all else there is an order.
    cases present : actual.isNull with
    | true => rfl
    | false =>
      cases number : actual.isNaN with
      | true => rfl
      | false =>
        cases other : bound.isNaN with
        | true => rfl
        | false =>
          have given : bound.isNull = false := sameNull.trans given
          exact conforms.compare?_isSome ordered beside present given number other

/-- A test that fits a type asks its relation about every value of the type. -/
theorem Fits.watch_eq (fits : test.Fits settings type) (conforms : Value.Conforms type actual) :
    test.watch actual = .ok (test.holds actual) := by
  -- An operator without a relation demands a body, which is no operand.
  have plain : test.operator.demand ≠ .body := by
    obtain ⟨literal, built⟩ := fits
    intro demanded
    rw [demanded] at built
    cases built
  obtain ⟨relation, found⟩ := Option.isSome_iff_exists.1 (Operator.relation?_isSome plain)
  simp [watch, holds, found, fits.isProper conforms]

end Test

namespace Focus

variable {focus : Focus} {type : DataType}

/-- What a test is asked about conforms to the type in focus. -/
theorem Conforms.content (conforms : focus.Conforms type) : Value.Conforms type focus.content := by
  cases focus with
  | value held => exact conforms
  | record whole =>
    -- The record that stands in for a whole one has no fields to speak of.
    obtain ⟨fields⟩ := whole
    cases conforms
    exact .record fun _ _ _ _ _ held => by simp [Fields.getExact?, Fields.lookupExact?] at held

/-- A step to a field of the schema fits, and leads to what conforms to the type of the field. -/
theorem Conforms.field {name sought field : String} {declared : List (String × DataType)}
    (conforms : focus.Conforms (.record name declared))
    (found : Fields.lookup? sought declared = some (field, type)) :
    focus.admits (.field field) = true ∧ (focus.take (.field field)).Conforms type := by
  -- A null has every field as null; a record's own fields conform to their types.
  cases focus with
  | record whole => exact ⟨rfl, Value.Conforms.field conforms found⟩
  | value held =>
    cases held with
    | null => exact ⟨rfl, .null⟩
    | record fields => exact ⟨rfl, Value.Conforms.field conforms found⟩
    | _ => cases conforms

/-- A step to an item of a list fits, and leads to what conforms to the type of its elements. -/
theorem Conforms.item {element : DataType} (conforms : focus.Conforms (.list element))
    (place : UInt64) :
    focus.admits (.item place) = true ∧ (focus.take (.item place)).Conforms element := by
  -- A null has every item as null; a list's own items conform to the element.
  cases focus with
  | record whole => cases conforms
  | value held =>
    cases held with
    | null => exact ⟨rfl, .null⟩
    | list items => exact ⟨rfl, Value.Conforms.item place.toNat conforms⟩
    | _ => cases conforms

/-- What conforms to a type of lists has elements, all of which conform to the type of the elements. -/
theorem Conforms.elements {element : DataType} (conforms : focus.Conforms (.list element)) :
    focus.isCollection = true ∧ ∀ item ∈ focus.elements, Value.Conforms element item := by
  -- Null stands in for a list without elements.
  cases focus with
  | record whole => cases conforms
  | value held =>
    cases conforms with
    | null => exact ⟨rfl, fun item member => absurd member List.not_mem_nil⟩
    | list every => exact ⟨rfl, every⟩

end Focus

variable {settings : Settings}

mutual
/-- A plan that fits a type is evaluated under watch without a misfit, on whatever conforms to the type. -/
theorem Plan.watch_eq (plan : Plan) {type : DataType} {focus : Focus}
    (fits : plan.Fits settings type) (conforms : focus.Conforms type) :
    plan.watch focus = .ok (plan.holds focus) := by
  -- Mutual over plans and probes: nothing is watched but what the probes step through.
  cases fits with
  | @group combinator negated children _ every =>
    rw [Plan.watch, Plan.watches_eq children every conforms]
    rfl
  | @condition probe negated _ fits =>
    rw [Plan.watch, Probe.watch_eq probe fits conforms]
    rfl
/-- Several plans that fit a type are evaluated under watch without a misfit. -/
theorem Plan.watches_eq (children : List Plan) {type : DataType} {focus : Focus}
    (every : ∀ child ∈ children, Plan.Fits settings type child) (conforms : focus.Conforms type) :
    Plan.watches focus children = .ok (Plan.results focus children) := by
  -- The children all watch the same value.
  cases children with
  | nil => rfl
  | cons child rest =>
    rw [List.forall_mem_cons] at every
    rw [Plan.watches, Plan.watch_eq child every.1 conforms, Plan.watches_eq rest every.2 conforms]
    rfl
/-- A probe that fits a type is evaluated under watch without a misfit. -/
theorem Probe.watch_eq (probe : Probe) {type : DataType} {focus : Focus}
    (fits : probe.Fits settings type) (conforms : focus.Conforms type) :
    probe.watch focus = .ok (probe.holds focus) := by
  -- Each step is admitted because the value conforms, and it leads to a value that conforms again.
  cases fits with
  | @field name sought spelling declared reached next found fits =>
    obtain ⟨admitted, reaches⟩ := Focus.Conforms.field conforms found
    rw [Probe.watch, if_pos admitted, Probe.watch_eq next fits reaches]
    rfl
  | @item element place next fits =>
    obtain ⟨admitted, reaches⟩ := Focus.Conforms.item conforms place
    rw [Probe.watch, if_pos admitted, Probe.watch_eq next fits reaches]
    rfl
  | @each element quantifier each fits =>
    obtain ⟨collection, every⟩ := Focus.Conforms.elements conforms
    have answered : ∀ item ∈ focus.elements,
        each.watch (.value item) = .ok (each.holds (.value item)) :=
      fun item member => Probe.watch_eq each fits (every item member)
    rw [Probe.watch, if_pos collection, Outcome.mapM_eq_ok answered]
    simp [Except.map, Quantifier.join_map, Probe.holds]
  | test fits => exact fits.watch_eq conforms.content
  | @body _ plan fits => exact Plan.watch_eq plan fits conforms
end

namespace Filter

/-- On a record of its schema a predicate answers as under watch, which meets no misfit anywhere. -/
theorem compile_watch {schema : Schema} {filter : Filter} {predicate : Predicate} {record : Record}
    (compiled : filter.compile settings schema = .ok predicate)
    (conforms : Value.Conforms schema.type (.record record.fields)) :
    predicate.plan.watch (.record record) = .ok (predicate.test record) := by
  -- The plan fits the type of the schema, to which the record conforms.
  obtain ⟨plan, planned, rfl⟩ := Outcome.map_eq_ok.1 compiled
  exact plan.watch_eq (plan_fits filter planned) conforms

/-- A line without a price, and one that is missing itself, are asked about their prices all the same. -/
theorem compile_watch_lines :
    ∃ predicate : Predicate,
      (nested "lines" .any (condition "Price" .greaterThan (some (.int 2)) false) false).compile
        .standard ⟨"Order", [("lines", .list (.record "Line" [("price", .int)]))]⟩ =
          .ok predicate ∧
      predicate.plan.watch (.record ⟨[("lines", .list [.record [], .null, .record [("price",
        .int 3)]])]⟩) = .ok true := by
  -- The lines hold a record without the field, a null and a record with it.
  refine Exists.imp (fun predicate compiled => ⟨compiled, ?_⟩) ⟨_, rfl⟩
  rw [compile_watch compiled]
  · have same : Except.ok _ = Except.ok predicate := compiled
    cases same
    exact congrArg Except.ok (by decide +kernel)
  · -- What is left is that the record conforms, item by item.
    refine .of_declared fun field declared value held => ?_
    obtain rfl : field = _ := List.mem_singleton.1 declared
    obtain rfl : _ = value := Option.some.inj held
    refine .list fun item member => ?_
    simp only [List.mem_cons, List.not_mem_nil, or_false] at member
    rcases member with rfl | rfl | rfl
    · exact .of_declared fun field declared value held => by cases held
    · exact .null
    · refine .of_declared fun field declared value held => ?_
      obtain rfl : field = _ := List.mem_singleton.1 declared
      obtain rfl : _ = value := Option.some.inj held
      exact .int

end Filter

end RecordFilter
