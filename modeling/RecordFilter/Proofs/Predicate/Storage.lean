import RecordFilter.Predicate.Basic
import RecordFilter.Proofs.Calendar.Text
import RecordFilter.Proofs.Filter.RoundTrip
import RecordFilter.Proofs.Predicate.Planning

/-! Filters that are stored as JSON text and read again compile to the predicate that they compiled to before. -/

namespace RecordFilter

namespace Literal

/-- A text says all of the literal: a finite double, or a date or timestamp in a year of four digits. -/
def Lasts : Literal → Prop
  | .float value => value.isFinite = true
  | .date day => 0 ≤ day.year ∧ day.year ≤ 9999
  | .timestamp time => 0 ≤ time.date.year ∧ time.date.year ≤ 9999 ∧ time.IsProper
  | _ => True

variable {type : DataType} {literal : Literal} {value : Value}

/-- What a text keeps of a literal stands for the same value beside every type that takes the literal. -/
theorem coerce_normal (lasts : literal.Lasts) (read : literal.coerce type = .ok value) :
    literal.normal.coerce type = .ok value := by
  -- Dates and times are stored as texts, which their types read back; a lasting float is stored as
  -- it is.
  cases literal with
  | null | boolean | int | string => exact read
  | list items => simp [coerce_list] at read
  | float number =>
    have finite : number.isFinite = true := lasts
    rwa [normal, if_pos finite]
  | date day =>
    obtain ⟨early, late⟩ := lasts
    cases type with
    | date =>
      rw [normal, coerce, readAs, Value.parse, Date.read?_text early late]
      exact read
    | timestamp =>
      rw [normal, coerce, readAs, Value.parse, Timestamp.read?_date_text early late]
      exact read
    | _ => cases read
  | timestamp time =>
    obtain ⟨early, late, proper⟩ := lasts
    cases type with
    | timestamp =>
      rw [normal, coerce, readAs, Value.parse, (Timestamp.read?_storedText_iff early late).2 proper]
      exact read
    | _ => cases read

/-- A literal is one of its parts. -/
theorem mem_parts (literal : Literal) : literal ∈ literal.parts := by
  cases literal <;> simp [parts]

/-- Candidates stand for the same values as what a text keeps of them. -/
theorem map_coerce_normalItems {items : List Literal} {values : List Value}
    (last : ∀ part ∈ itemParts items, part.Lasts) (read : items.map (coerce type) = values.map .ok) :
    (normalItems items).map (coerce type) = values.map .ok := by
  -- The items are stored and coerced one by one.
  induction items generalizing values with
  | nil => exact read
  | cons item rest ih =>
    rw [itemParts, List.forall_mem_append] at last
    cases values with
    | nil => cases read
    | cons value others =>
      obtain ⟨here, after⟩ := List.cons.inj read
      rw [normalItems, List.map_cons, List.map_cons, ih last.2 after,
        coerce_normal (last.1 item item.mem_parts) here]

/-- Nothing but null is kept as null. -/
theorem isNull_normal (lasts : literal.Lasts) (present : literal.isNull = false) :
    literal.normal.isNull = false := by
  -- A float that is not finite would be stored as null; a lasting one is finite.
  cases literal with
  | float number =>
    have finite : number.isFinite = true := lasts
    rw [normal, if_pos finite]
    rfl
  | null => cases present
  | _ => rfl

end Literal

/-- What a text keeps of a literal makes the same operand. -/
theorem Operand.Built.normal {settings : Settings} {type : DataType} {demand : Demand}
    {literal : Literal} {operand : Operand} (last : ∀ part ∈ literal.parts, part.Lasts)
    (built : Operand.Built settings type demand literal operand) :
    Operand.Built settings type demand literal.normal operand := by
  -- The operand is built from the literal by its demand; each way meets the stored literal as it
  -- met the given one.
  have lasts := last literal literal.mem_parts
  cases built with
  | nothing => exact .nothing
  | candidates read =>
    exact .candidates (Literal.map_coerce_normalItems
      (fun part member => last part (List.mem_cons_of_mem _ member)) read)
  | rank ordered present read =>
    exact .rank ordered (Literal.isNull_normal lasts present) (Literal.coerce_normal lasts read)
  | pattern isText compiled => exact .pattern isText compiled
  | text isText => exact .text isText
  | value read => exact .value (Literal.coerce_normal lasts read)

namespace Filter

variable {settings : Settings}

/-- A condition without a value is compared with null, and so is one whose value is kept as null. -/
theorem getD_normalValue (value : Option Literal) :
    (normalValue value).getD .null = (value.getD .null).normal := by
  -- A missing value and a null literal are stored alike, and both are taken as null.
  cases value with
  | none => rfl
  | some literal =>
    rw [normalValue, Option.map_some, Option.getD_some]
    cases normal : literal.normal <;> rfl

mutual
/-- What a text keeps of a filter has the plan of the filter. -/
theorem plan_normal {focus : DataType} {location : Location} {plan : Plan} : ∀ filter : Filter,
    (∀ literal ∈ filter.literals, literal.Lasts) →
    filter.plan settings focus location = .ok plan →
    filter.normal.plan settings focus location = .ok plan
  | .condition path operator value negated, last, planned => by
    obtain ⟨plain, read, entered, reached, operand, good, leads, built, rfl⟩ :=
      plan_condition_eq_ok.1 planned
    -- A missing value stands for null, which lasts.
    have parts : ∀ part ∈ (value.getD .null).parts, part.Lasts := by
      cases value with
      | none => exact List.forall_mem_singleton.2 trivial
      | some literal => simpa [literals] using last
    rw [normal]
    refine plan_condition_eq_ok.2 ⟨plain, read, entered, reached, operand, good, leads, ?_, rfl⟩
    rw [getD_normalValue]
    exact built.normal parts
  | .nested path operator body negated, last, planned => by
    obtain ⟨quantifies, read, entered, reached, inner, below, good, leads, found, body, rfl⟩ :=
      plan_nested_eq_ok.1 planned
    rw [normal]
    exact plan_nested_eq_ok.2 ⟨quantifies, read, entered, reached, inner, below, good, leads, found,
      plan_normal _ last body, rfl⟩
  | .group combinator negated children, last, planned => by
    obtain ⟨policy, below, plans, rfl⟩ := plan_group_eq_ok.1 planned
    rw [normal]
    -- The normal form keeps the number of children, so the policy on empty groups has nothing new
    -- to say.
    refine plan_group_eq_ok.2 ⟨fun empty => policy ?_, below, plans_normalAll children last plans, rfl⟩
    cases children with
    | nil => rfl
    | cons => cases empty
/-- What a text keeps of several filters has the plans of the filters. -/
theorem plans_normalAll {focus : DataType} {location : Location} {index : Nat} {below : List Plan} :
    ∀ children : List Filter, (∀ literal ∈ literalsOfAll children, literal.Lasts) →
    plans settings focus location index children = .ok below →
    plans settings focus location index (normalAll children) = .ok below
  | [], _, planned => planned
  | child :: rest, last, planned => by
    -- Mutual with `plan_normal`, along the list of children.
    rw [literalsOfAll, List.forall_mem_append] at last
    obtain ⟨first, others, here, after, rfl⟩ := plans_cons_eq_ok.1 planned
    rw [normalAll]
    exact plans_cons_eq_ok.2 ⟨first, others, plan_normal child last.1 here,
      plans_normalAll rest last.2 after, rfl⟩
end

/--
A compiled filter that is stored as JSON text and read again compiles to the same predicate.

The predicate answers on every value as before, although dates and timestamps have become strings
and a null has become no value at all.
-/
theorem compile_restored {schema : Schema} {filter : Filter} {predicate : Predicate}
    (compiled : filter.compile settings schema = .ok predicate)
    (last : ∀ literal ∈ filter.literals, literal.Lasts)
    (deep : filter.toJson.depth ≤ Json.nestingLimit)
    (back : ∀ number, .float number ∈ filter.literals → number.IsReadBack) :
    ∃ restored, read? filter.jsonText = some restored ∧
      restored.compile settings schema = .ok predicate := by
  -- What is read back is the normal form, and the normal form has the same plan.
  obtain ⟨plan, planned, rfl⟩ := Outcome.map_eq_ok.1 compiled
  refine ⟨filter.normal, read?_eq_normal deep fun number member _ => back number member, ?_⟩
  exact Outcome.map_eq_ok.2 ⟨plan, plan_normal filter last planned, rfl⟩

/-- An event is asked about its time by date and by timestamp, about its place, and about its weight. -/
theorem compile_restored_event :
    let schema : Schema :=
      -- The literals hold a leap day, a leap second, nulls and a float.
      ⟨"Event", [("time", .timestamp), ("place", .string), ("weights", .list .float)]⟩
    let leapDay : Date := ⟨2024, 2, 29, by decide⟩
    let filter : Filter := group .and false [
      condition "time" .greaterThan (some (.date leapDay)) false,
      condition "time" .notIn (some (.list [.null, .timestamp ⟨leapDay, 86399, 1000000000⟩])) false,
      condition "place" .equal (some .null) true,
      condition "weights" .lessThan
        (some (.float (.finite false ⟨0x3FE0000000000000, by decide⟩))) false]
    ∃ predicate restored, filter.compile .standard schema = .ok predicate ∧
      read? filter.jsonText = some restored ∧ restored.compile .standard schema = .ok predicate := by
  intro schema leapDay filter
  obtain ⟨predicate, compiled⟩ : ∃ predicate, filter.compile .standard schema = .ok predicate :=
    ⟨_, rfl⟩
  have literals : filter.literals = [.date leapDay,
      .list [.null, .timestamp ⟨leapDay, 86399, 1000000000⟩], .null,
      .timestamp ⟨leapDay, 86399, 1000000000⟩, .null,
      .float (.finite false ⟨0x3FE0000000000000, by decide⟩)] := rfl
  have last : ∀ literal ∈ filter.literals, literal.Lasts := by
    rw [literals]
    simp [Literal.Lasts, Timestamp.IsProper, leapDay, Double.isFinite]
  have back : ∀ number, .float number ∈ filter.literals → number.IsReadBack := by
    intro number member
    rw [literals] at member
    obtain rfl : number = .finite false ⟨0x3FE0000000000000, by decide⟩ := by simpa using member
    exact half_isReadBack
  obtain ⟨restored, read, same⟩ := compile_restored compiled last (by decide) back
  exact ⟨predicate, restored, compiled, read, same⟩

end Filter

end RecordFilter
