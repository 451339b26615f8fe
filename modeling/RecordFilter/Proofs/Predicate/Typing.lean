import RecordFilter.Predicate.Basic
import RecordFilter.Proofs.Predicate.Planning

/-! Typed plans: every step and every test of a compiled plan belongs to the type that is in focus there. -/

namespace RecordFilter

/-- The test compares values of a type with an operand that some literal made beside that type. -/
def Test.Fits (settings : Settings) (type : DataType) (test : Test) : Prop :=
  ∃ literal, Operand.Built settings type test.operator.demand literal test.operand

mutual
/-- A plan whose conditions all fit values of a type. -/
inductive Plan.Fits (settings : Settings) : DataType → Plan → Prop
  | group {combinator : Combinator} {negated : Bool} {children : List Plan} {type : DataType}
      (every : ∀ child ∈ children, Plan.Fits settings type child) :
      Plan.Fits settings type (.group combinator negated children)
  | condition {probe : Probe} {negated : Bool} {type : DataType}
      (fits : Probe.Fits settings type probe) :
      Plan.Fits settings type (.condition probe negated)
/-- A probe whose steps, tests and bodies fit the types that they meet. -/
inductive Probe.Fits (settings : Settings) : DataType → Probe → Prop
  -- A field is one that some lookup in the schema returns, under its own spelling.
  | field {name sought spelling : String} {declared : List (String × DataType)}
      {type : DataType} {next : Probe}
      (found : Fields.lookup? sought declared = some (spelling, type))
      (fits : Probe.Fits settings type next) :
      Probe.Fits settings (.record name declared) (.step (.field spelling) next)
  | item {element : DataType} {place : UInt64} {next : Probe}
      (fits : Probe.Fits settings element next) :
      Probe.Fits settings (.list element) (.step (.item place) next)
  | each {element : DataType} {quantifier : Quantifier} {each : Probe}
      (fits : Probe.Fits settings element each) :
      Probe.Fits settings (.list element) (.each quantifier each)
  | test {type : DataType} {asked : Test} (fits : asked.Fits settings type) :
      Probe.Fits settings type (.test asked)
  | body {type : DataType} {plan : Plan} (fits : Plan.Fits settings type plan) :
      Probe.Fits settings type (.body plan)
end

variable {settings : Settings}

/-- A probe that fits the type at the end of a route fits the type at its start with the route before it. -/
theorem Path.Leads.toward_fits {segments : List Segment} {type reached : DataType} {entered : Bool}
    (leads : Leads segments type entered reached) {last : Probe} (quantifier : Quantifier)
    (fits : last.Fits settings reached) :
    ((Route.ofSegments segments type).toward quantifier last).Fits settings type := by
  -- Each constructor adds the step or the list that the route has for it.
  induction leads with
  | done => exact fits
  | enter further ih =>
    rw [Route.ofSegments_list]
    exact .each (ih fits)
  | field plain found further ih =>
    rw [Route.ofSegments_field plain found]
    exact .field found (ih fits)
  | item indexed found further ih =>
    rw [Route.ofSegments_item indexed found]
    exact .field found (.item (ih fits))

namespace DataType

/-- A test of what lists hold fits the lists once their layers are entered. -/
theorem somewhere_fits {last : Probe} {type : DataType} (fits : last.Fits settings type.core) :
    (type.somewhere last).Fits settings type := by
  -- One layer of lists after another is put around the test.
  induction type using core.induct with
  | case1 element ih => exact .each (ih fits)
  | case2 type scalar =>
    cases type with
    | list element => exact absurd rfl (scalar element)
    | _ => exact fits

/-- A test at the end of a path fits the type there when it fits the type that it asks about. -/
theorem testing_fits {type : DataType} {test : Test}
    (fits : test.Fits settings (type.asked test.operator)) :
    (type.testing test).Fits settings type := by
  -- A null check sits on the type itself, a comparison below its lists.
  unfold testing
  unfold asked at fits
  split
  · rename_i check
    rw [if_pos check] at fits
    exact .test fits
  · rename_i compares
    rw [if_neg compares] at fits
    exact somewhere_fits (.test fits)

/-- A body that fits what is handed to it fits the type that it is handed from. -/
theorem handing_fits {type inner : DataType} {entered : Bool} {plan : Plan}
    (quantifier : Quantifier) (handed : type.bodyType? entered = some inner)
    (fits : plan.Fits settings inner) : (type.handing quantifier plan).Fits settings type := by
  -- Only a list is opened, and its elements are what the body is about.
  cases type with
  | list element =>
    simp only [bodyType?, Option.some.injEq] at handed
    subst handed
    exact .each (.body fits)
  | _ =>
    simp only [bodyType?, Option.ite_none_right_eq_some, Option.some.injEq] at handed
    obtain ⟨-, rfl⟩ := handed
    exact .body fits

end DataType

namespace Filter

mutual
/-- The plan of a filter fits the type that it was made for. -/
theorem plan_fits (filter : Filter) {type : DataType} {location : Location} {plan : Plan}
    (planned : filter.plan settings type location = .ok plan) : plan.Fits settings type := by
  -- The probe fits from its end backwards: first the test or the body, then the way to it.
  cases filter with
  | condition path operator value negated =>
    obtain ⟨_, read, entered, reached, operand, _, leads, built, rfl⟩ :=
      plan_condition_eq_ok.1 planned
    have fits : (⟨operator, operand⟩ : Test).Fits settings (reached.asked operator) :=
      ⟨value.getD .null, built⟩
    exact .condition (leads.toward_fits operator.quantifier (DataType.testing_fits fits))
  | nested path operator body negated =>
    obtain ⟨_, read, entered, reached, inner, below, _, leads, handed, plannedBody, rfl⟩ :=
      plan_nested_eq_ok.1 planned
    have fits := plan_fits body plannedBody
    exact .condition (leads.toward_fits operator.quantifier
      (DataType.handing_fits operator.quantifier handed fits))
  | group combinator negated children =>
    obtain ⟨_, below, plannedBelow, rfl⟩ := plan_group_eq_ok.1 planned
    exact .group (plans_fit children plannedBelow)
/-- The plans of several filters fit the type that they were made for. -/
theorem plans_fit (children : List Filter) {type : DataType} {location : Location} {index : Nat}
    {below : List Plan} (planned : plans settings type location index children = .ok below) :
    ∀ plan ∈ below, plan.Fits settings type := by
  -- Mutual with `plan_fits`: every child's plan fits the same type.
  cases children with
  | nil =>
    simp only [plans, Except.ok.injEq] at planned
    simp [← planned]
  | cons child rest =>
    obtain ⟨first, others, plannedFirst, plannedRest, rfl⟩ := plans_cons_eq_ok.1 planned
    rw [List.forall_mem_cons]
    exact ⟨plan_fits child plannedFirst, plans_fit rest plannedRest⟩
end

end Filter

end RecordFilter
