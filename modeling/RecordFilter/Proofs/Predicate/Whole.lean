import RecordFilter.Proofs.Predicate.Declared
import RecordFilter.Proofs.Predicate.Straight

/-! Records as a whole: plans answer on them as on the values that hold them, and tell none from another. -/

namespace RecordFilter

variable {settings : Settings} {name : String} {declared : List (String × DataType)}

/-- After its first step from a record a probe cannot tell how the record was in focus. -/
theorem Path.Leads.toward_whole {segment : Segment} {rest : List Segment} {reached : DataType}
    {entered : Bool} (leads : Path.Leads (segment :: rest) (.record name declared) entered reached)
    (quantifier : Quantifier) (last : Probe) (record : Record) :
    ((Route.ofSegments (segment :: rest) (.record name declared)).toward quantifier last).holds
        (.record record) =
      ((Route.ofSegments (segment :: rest) (.record name declared)).toward quantifier last).holds
        (.value (.record record.fields)) := by
  -- The first step goes into a field, and a record and its value hold the same one.
  cases leads with
  | field plain found =>
    rw [Route.ofSegments_field plain found]
    rfl
  | item indexed found =>
    rw [Route.ofSegments_item indexed found]
    rfl

namespace Filter

mutual
/-- The plan of a filter for records answers on a record as on the value that holds it. -/
theorem plan_holds_whole (filter : Filter) {location : Location} {plan : Plan}
    (planned : filter.plan settings (.record name declared) location = .ok plan)
    (record : Record) :
    plan.holds (.record record) = plan.holds (.value (.record record.fields)) := by
  cases filter with
  | condition path operator literal negated =>
    obtain ⟨plain, ⟨segments⟩, entered, reached, operand, good, leads, built, rfl⟩ :=
      plan_condition_eq_ok.1 planned
    rw [Plan.holds, Plan.holds, Path.route]
    refine congrArg (· != negated) ?_
    cases segments with
    | cons segment rest => exact leads.toward_whole _ _ record
    | nil =>
      -- What is asked of the record itself is nothing about what it holds.
      cases leads
      rw [DataType.asked_of_single rfl] at built
      rw [Route.ofSegments, Route.toward, DataType.testing_of_single rfl]
      show (⟨operator, operand⟩ : Test).holds (.record []) =
        (⟨operator, operand⟩ : Test).holds (.record record.fields)
      rw [built.test_holds, built.test_holds]
      exact Value.asks_composite rfl rfl
  | nested path operator body negated =>
    obtain ⟨quantifies, ⟨segments⟩, entered, reached, inner, below, good, leads, handed, -, rfl⟩ :=
      plan_nested_eq_ok.1 planned
    rw [Plan.holds, Plan.holds, Path.route]
    refine congrArg (· != negated) ?_
    cases segments with
    | cons segment rest => exact leads.toward_whole _ _ record
    | nil =>
      -- A record outside of all lists is not handed to a body.
      cases leads
      cases handed
  | group combinator negated children =>
    obtain ⟨-, below, plannedBelow, rfl⟩ := plan_group_eq_ok.1 planned
    rw [Plan.holds, Plan.holds, plans_hold_whole children plannedBelow record]
/-- The plans of several filters for records answer on a record as on the value that holds it. -/
theorem plans_hold_whole (children : List Filter) {location : Location} {index : Nat}
    {below : List Plan}
    (planned : plans settings (.record name declared) location index children = .ok below)
    (record : Record) :
    Plan.results (.record record) below = Plan.results (.value (.record record.fields)) below := by
  -- Mutual with `plan_holds_whole`, child by child.
  cases children with
  | nil =>
    obtain rfl := Except.ok.inj planned
    rfl
  | cons child rest =>
    obtain ⟨first, others, plannedFirst, plannedRest, rfl⟩ := plans_cons_eq_ok.1 planned
    rw [Plan.results, Plan.results, plan_holds_whole child plannedFirst record,
      plans_hold_whole rest plannedRest record]
end

/-- The predicate of a filter answers on a record as the filter reads on the value that holds it. -/
theorem test_eq_reading {schema : Schema} {filter : Filter} {predicate : Predicate}
    (compiled : filter.compile settings schema = .ok predicate) (record : Record) :
    predicate.test record = filter.reading settings schema.type (.record record.fields) := by
  -- Testing the record is testing its value, whose answer is the reading.
  obtain ⟨plan, planned, rfl⟩ := Outcome.map_eq_ok.1 compiled
  exact (plan_holds_whole filter planned record).trans (plan_holds filter planned _)

/-- Every condition outside of bodies has the empty path, which stands for the value in focus. -/
inductive OfWhole : Filter → Prop
  | condition {operator : Operator} {literal : Option Literal} {negated : Bool} :
      OfWhole (.condition "" operator literal negated)
  | nested {operator : Operator} {body : Filter} {negated : Bool} :
      OfWhole (.nested "" operator body negated)
  | group {combinator : Combinator} {negated : Bool} {children : List Filter}
      (every : ∀ child ∈ children, OfWhole child) : OfWhole (.group combinator negated children)

/-- What makes sense about a record as a whole says the same about every record. -/
theorem OfWhole.reading_eq {filter : Filter} (whole : OfWhole filter)
    (formed : WellFormed settings (.record name declared) filter)
    (fields others : List (String × Value)) :
    filter.reading settings (.record name declared) (.record fields) =
      filter.reading settings (.record name declared) (.record others) := by
  have here : Path.Reaches "" (.record name declared) false (.record name declared) :=
    ⟨.empty, rfl, .done⟩
  induction whole with
  | condition =>
    cases formed with
    | condition plain reaches accepted =>
      -- The path ends where it begins, and nothing is asked about what a record holds.
      rw [reading_straight plain here fun _ => rfl, reading_straight plain here fun _ => rfl]
      refine congrArg (· != _) ?_
      exact Value.asks_composite rfl rfl
  | nested =>
    cases formed with
    | nested quantifies reaches handed below =>
      -- A record outside of all lists is not handed to a body.
      obtain ⟨rfl, rfl⟩ := here.unique reaches
      cases handed
  | group every ih =>
    rw [wellFormed_group_iff] at formed
    rw [reading, reading, readings_eq_map, readings_eq_map]
    rw [List.map_congr_left fun child member => ih child member (formed.2 child member)]

/--
A predicate answers on a record as on the value that holds it.

Where its filter is about the whole record it does not tell one record from another either.
-/
theorem compile_test_whole {schema : Schema} {filter : Filter} {predicate : Predicate}
    (compiled : filter.compile settings schema = .ok predicate) :
    (∀ record : Record, predicate.test record = predicate.testValue (.record record.fields)) ∧
      (OfWhole filter → ∀ record other : Record,
        predicate.testValue (.record record.fields) =
          predicate.testValue (.record other.fields)) := by
  -- The second half crosses from the plan to the reading, where such a filter sees none of the
  -- fields.
  have formed : WellFormed settings schema.type filter :=
    compiles_iff_wellFormed.1 ⟨predicate, compiled⟩
  obtain ⟨plan, planned, rfl⟩ := Outcome.map_eq_ok.1 compiled
  refine ⟨fun record => plan_holds_whole filter planned record, fun whole record other => ?_⟩
  calc plan.holds (.value (.record record.fields))
      = filter.reading settings schema.type (.record record.fields) := plan_holds filter planned _
    _ = filter.reading settings schema.type (.record other.fields) :=
      whole.reading_eq formed record.fields other.fields
    _ = plan.holds (.value (.record other.fields)) := (plan_holds filter planned _).symm

/-- Questions about a whole order, and one of its lines beside them. -/
theorem compile_test_whole_order :
    let schema : Schema := ⟨"Order", [("id", .int), ("lines", .list .string)]⟩
    let present : Filter := .group .xor true [.condition "" .notNull none false,
      .condition "" .notIn (some (.list [.null])) true, .group .or false []]
    let listed : Filter := .nested "lines" .any (.condition "" .equal (some (.string "a")) false) false
    (∃ predicate : Predicate, present.compile .standard schema = .ok predicate ∧
      predicate.testValue (.record [("id", .int 1), ("lines", .list [.null])]) =
        predicate.testValue (.record [])) ∧
    ∃ predicate : Predicate,
      (Filter.group .and false [present, listed]).compile .standard schema = .ok predicate ∧
      ∀ record : Record, predicate.test record = predicate.testValue (.record record.fields) := by
  -- The first filter asks about the record alone, the second goes into its lines.
  intro schema present listed
  have whole : OfWhole present := by
    refine .group ?_
    simp only [List.forall_mem_cons]
    exact ⟨.condition, .condition, .group (by simp), by simp⟩
  refine ⟨Exists.imp (fun predicate compiled => ⟨compiled, ?_⟩) ⟨_, rfl⟩,
    Exists.imp (fun predicate compiled => ⟨compiled, ?_⟩) ⟨_, rfl⟩⟩
  · exact (compile_test_whole compiled).2 whole ⟨_⟩ ⟨[]⟩
  · exact (compile_test_whole compiled).1

end Filter

end RecordFilter
