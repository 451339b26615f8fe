import RecordFilter.Predicate.Basic
import RecordFilter.Proofs.Predicate.Planning
import Mathlib.Data.List.Forall2

/-! The shape of a filter, which its plan keeps: a node for each node, in the same places. -/

namespace RecordFilter

/-- The plan of a sub-filter that a probe ends in, behind all steps and lists on the way. -/
def Probe.body? : Probe → Option Plan
  | .step _ next => next.body?
  | .each _ element => element.body?
  | .test _ => none
  | .body plan => some plan

/-- Every node of a filter stands beside one of a plan with its negation, and none is left over. -/
inductive Filter.Paired : Filter → Plan → Prop
  | condition {path : String} {operator : Operator} {value : Option Literal} {negated : Bool}
      {probe : Probe} (bare : probe.body? = none) :
      Paired (.condition path operator value negated) (.condition probe negated)
  -- However long the way to it is, there is one plan for the body.
  | nested {path : String} {operator : Operator} {body : Filter} {negated : Bool} {probe : Probe}
      {plan : Plan} (ends : probe.body? = some plan) (below : Paired body plan) :
      Paired (.nested path operator body negated) (.condition probe negated)
  | group {combinator : Combinator} {negated : Bool} {children : List Filter} {plans : List Plan}
      (below : List.Forall₂ Paired children plans) :
      Paired (.group combinator negated children) (.group combinator negated plans)

/-- The nodes below a condition are those of the plan that its probe ends in. -/
theorem Probe.nodeCount_eq : ∀ probe : Probe, probe.nodeCount = probe.body?.elim 0 Plan.nodeCount
  | .step _ next => next.nodeCount_eq
  | .each _ element => element.nodeCount_eq
  | .test _ => rfl
  | .body _ => rfl

/-- The way to a probe has no part in the plan that it ends in. -/
theorem Route.toward_body? (route : Route) (quantifier : Quantifier) (last : Probe) :
    (route.toward quantifier last).body? = last.body? := by
  -- The way to the last probe adds steps around it and no body.
  induction route with
  | arrive | fail => rfl
  | step taken next ih => exact ih
  | spread element rest next ih => exact ih

namespace DataType

/-- Looking for some element of a list has no part in the plan that a probe ends in. -/
theorem somewhere_body? (last : Probe) (type : DataType) :
    (type.somewhere last).body? = last.body? := by
  -- Every list adds one step around the last probe.
  induction type using core.induct with
  | case1 element ih => exact ih
  | case2 type scalar =>
    cases type with
    | list element => exact absurd rfl (scalar element)
    | _ => rfl

/-- A test ends in no plan. -/
theorem testing_body? (test : Test) (type : DataType) : (type.testing test).body? = none := by
  -- A test ends in no body, wherever it is put.
  unfold testing
  split
  · rfl
  · exact type.somewhere_body? (.test test)

/-- What hands values to a plan ends in it. -/
theorem handing_body? (quantifier : Quantifier) (plan : Plan) (type : DataType) :
    (type.handing quantifier plan).body? = some plan := by
  cases type <;> rfl

end DataType

namespace Filter

variable {settings : Settings} {focus : DataType} {location : Location}

mutual
/-- The plan of a filter has its shape. -/
theorem plan_paired (filter : Filter) {focus : DataType} {location : Location} {plan : Plan}
    (planned : filter.plan settings focus location = .ok plan) : Paired filter plan := by
  -- The steps and lists on the way of a condition are no nodes, so only its end counts.
  cases filter with
  | condition path operator value negated =>
    obtain ⟨-, read, entered, reached, operand, -, -, -, rfl⟩ := plan_condition_eq_ok.1 planned
    refine .condition ?_
    rw [Route.toward_body?, DataType.testing_body?]
  | nested path operator body negated =>
    obtain ⟨-, read, entered, reached, inner, below, -, -, -, plannedBelow, rfl⟩ :=
      plan_nested_eq_ok.1 planned
    refine .nested ?_ (plan_paired body plannedBelow)
    rw [Route.toward_body?, DataType.handing_body?]
  | group combinator negated children =>
    obtain ⟨-, below, plannedBelow, rfl⟩ := plan_group_eq_ok.1 planned
    exact .group (plans_paired children plannedBelow)
/-- The plans of several filters have their shapes. -/
theorem plans_paired (children : List Filter) {focus : DataType} {location : Location}
    {index : Nat} {plans : List Plan}
    (planned : Filter.plans settings focus location index children = .ok plans) :
    List.Forall₂ Paired children plans := by
  -- Mutual with `plan_paired`: one plan for each child.
  cases children with
  | nil =>
    obtain rfl := Except.ok.inj planned
    exact .nil
  | cons child rest =>
    obtain ⟨first, others, plannedFirst, plannedOthers, rfl⟩ := plans_cons_eq_ok.1 planned
    exact .cons (plan_paired child plannedFirst) (plans_paired rest plannedOthers)
end

mutual
/-- A plan of the shape of a filter has as many nodes. -/
theorem Paired.nodeCount_eq {filter : Filter} {plan : Plan} (paired : Paired filter plan) :
    plan.nodeCount = filter.nodeCount := by
  -- A probe counts the nodes of the plan that it ends in, and no others.
  cases paired with
  | condition bare => rw [Plan.nodeCount, Probe.nodeCount_eq, bare, Filter.nodeCount]; rfl
  | nested ends below =>
    rw [Plan.nodeCount, Probe.nodeCount_eq, ends, Filter.nodeCount, ← below.nodeCount_eq]
    rfl
  | group below => rw [Plan.nodeCount, Filter.nodeCount, nodeCounts_of_paired below]
/-- Plans of the shapes of several filters have as many nodes. -/
theorem nodeCounts_of_paired {children : List Filter} {plans : List Plan}
    (paired : List.Forall₂ Paired children plans) :
    Plan.nodeCounts plans = nodeCounts children := by
  -- Mutual with `nodeCount_eq`, counted along the pairing.
  cases paired with
  | nil => rfl
  | cons first others =>
    rw [Plan.nodeCounts, nodeCounts, first.nodeCount_eq, nodeCounts_of_paired others]
end

/--
A compiled filter has as many nodes as the filter.

They stand in the same places: no node was left out or repeated, or added for the lists that a path
enters.
-/
theorem compile_nodeCount {schema : Schema} {filter : Filter} {predicate : Predicate}
    (compiled : filter.compile settings schema = .ok predicate) :
    Paired filter predicate.plan ∧ predicate.nodeCount = filter.nodeCount := by
  -- The plan is paired with the filter node by node, and a pairing keeps the count.
  obtain ⟨plan, planned, rfl⟩ := Outcome.map_eq_ok.1 compiled
  have paired : Paired filter plan := plan_paired filter planned
  exact ⟨paired, paired.nodeCount_eq⟩

/-- Sub-filters inside each other along paths that enter several lists, and a group without children. -/
theorem compile_nodeCount_shelves :
    let schema : Schema := ⟨"Library", [("shelves", .list (.record "Shelf" [("books", .list
      (.record "Book" [("tags", .list (.list .string)), ("price", .decimal)]))]))]⟩
    let filter : Filter := .group .xor true
      [.nested "shelves" .any (.nested "books" .all (.group .or false
          [.condition "tags" .startsWith (some (.string "a")) true, .group .and false []]) true) false,
        .nested "shelves.books.price" .all (.condition "" .notNull none false) false,
        .condition "Shelves.Books.Tags" .isIn (some (.list [.string "b", .null])) false]
    ∃ predicate : Predicate, filter.compile .standard schema = .ok predicate ∧
      predicate.nodeCount = 9 := by
  -- Three conditions, three nested filters, two groups and the root, counted in the plan.
  intro schema filter
  refine Exists.imp (fun predicate compiled => ⟨compiled, ?_⟩) ⟨_, rfl⟩
  exact (compile_nodeCount compiled).2

end Filter

end RecordFilter
