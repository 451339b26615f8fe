import RecordFilter.Proofs.Predicate.Arrival
import RecordFilter.Proofs.Predicate.Operand

/-! The plan of each kind of filter, put together from its route, its end and the plans below it. -/

namespace RecordFilter

namespace DataType

/-- The type of what lists hold once every layer of lists around it is taken off. -/
def core : DataType → DataType
  | .list element => element.core
  | type => type

/-- The type of the values that an operator tests where its path ends. -/
def asked (operator : Operator) (type : DataType) : DataType :=
  -- Null checks ask about a list itself, and other tests about what it holds.
  if operator.isNullCheck then type else type.core

/-- The probe that looks for some element in every layer of lists. -/
def somewhere (last : Probe) : DataType → Probe
  | .list element => .each .any (element.somewhere last)
  | _ => last

/-- The probe that asks an operator's test where its path ends. -/
def testing (test : Test) (type : DataType) : Probe :=
  if test.operator.isNullCheck then .test test else type.somewhere (.test test)

/-- The type in focus of a sub-filter, given whether a list was entered on the way to it. -/
def bodyType? (entered : Bool) : DataType → Option DataType
  | .list element => some element
  | type => if entered then some type else none

/-- The probe that hands what is reached to a sub-filter, from a list one element at a time. -/
def handing (quantifier : Quantifier) (plan : Plan) : DataType → Probe
  | .list _ => .each quantifier (.body plan)
  | _ => .body plan

end DataType

namespace Site

variable {settings : Settings} {site : Site}

/-- Layers of lists are entered until there is something to compare. -/
theorem testProbe_eq (literal : Literal) (type : DataType) :
    site.testProbe settings literal type =
      (site.operand settings (type.asked site.operator) literal).map fun operand =>
        type.testing ⟨site.operator, operand⟩ := by
  -- Null checks stop at a list, while other tests are carried through all of its layers.
  unfold DataType.asked DataType.testing
  cases check : site.operator.isNullCheck with
  | true =>
    -- A null check makes the same operand for every type and enters no list.
    cases type <;> simp [testProbe, Site.operand, check, Except.map]
  | false =>
    simp only [Bool.false_eq_true, if_false]
    induction type using DataType.core.induct with
    | case1 element ih =>
      simp only [testProbe, check, Bool.false_eq_true, if_false, ih, DataType.core,
        DataType.somewhere]
      cases site.operand settings element.core literal <;> rfl
    | case2 type scalar =>
      cases type with
      | list element => exact absurd rfl (scalar element)
      | _ => simp [testProbe, DataType.core, DataType.somewhere]

/-- A sub-filter is compiled for the elements of a list, or for what was reached inside one. -/
theorem bodyProbe_of_bodyType {body : DataType → Except CompileError Plan} {entered : Bool}
    {type inner : DataType} (found : type.bodyType? entered = some inner) :
    site.bodyProbe body entered type =
      (body inner).map (type.handing site.operator.quantifier) := by
  -- A list hands its element on; anything else is handed on only after a list was entered.
  cases type with
  | list element =>
    simp only [DataType.bodyType?, Option.some.injEq] at found
    subst found
    rfl
  | _ =>
    simp only [DataType.bodyType?, Option.ite_none_right_eq_some, Option.some.injEq] at found
    obtain ⟨rfl, rfl⟩ := found
    rfl

/-- Without a list there is nothing to hand to a sub-filter. -/
theorem bodyProbe_of_none {body : DataType → Except CompileError Plan} {entered : Bool}
    {type : DataType} (missing : type.bodyType? entered = none) :
    site.bodyProbe body entered type = .error (.mismatch site (.noCollection type)) := by
  -- No list is entered and none is reached, so there is nothing to quantify over.
  cases type with
  | list element => simp [DataType.bodyType?] at missing
  | _ =>
    simp only [DataType.bodyType?, ite_eq_right_iff, reduceCtorEq, imp_false,
      Bool.not_eq_true] at missing
    simp [bodyProbe, missing]

/-- The probe of a path follows its route and ends in what is done there. -/
theorem probe_eq_ok {focus : DataType} {finish : Bool → DataType → Except CompileError Probe}
    {probe : Probe} :
    site.probe focus finish = .ok probe ↔
      ∃ path entered reached last, Path.read site.path = .ok path ∧
        Path.Leads path.segments focus entered reached ∧ finish entered reached = .ok last ∧
        probe = (path.route focus).toward site.operator.quantifier last := by
  -- The path has to be read and its route to arrive before the end is reached at all.
  constructor
  · intro built
    unfold Site.probe at built
    split at built
    · rename_i path read
      cases arrived : (path.route focus).arrival with
      | error cause => simp [Route.probe_of_failure arrived] at built
      | ok ending =>
        obtain ⟨entered, reached⟩ := ending
        rw [Route.probe_of_arrival arrived, Bool.false_or] at built
        obtain ⟨last, ended, rfl⟩ := Outcome.map_eq_ok.1 built
        exact ⟨path, entered, reached, last, read, Route.arrival_eq_ok.1 arrived, ended, rfl⟩
    · simp at built
  · intro given
    rcases given with ⟨path, entered, reached, last, read, leads, ended, rfl⟩
    simp [Site.probe, read, Path.route, Route.probe_of_arrival (Route.arrival_eq_ok.2 leads),
      ended, Except.map]

/-- The probe of a path fails with its text, with its route, or at its end. -/
theorem probe_error {focus : DataType} {finish : Bool → DataType → Except CompileError Probe}
    {error : CompileError} (failed : site.probe focus finish = .error error) :
    (∃ cause, Path.read site.path = .error cause ∧ error = .malformedPath site cause) ∨
    (∃ path cause, Path.read site.path = .ok path ∧
      (∀ entered reached, ¬ Path.Leads path.segments focus entered reached) ∧
      error = .mismatch site (.route cause)) ∨
    ∃ path entered reached, Path.read site.path = .ok path ∧
      Path.Leads path.segments focus entered reached ∧ finish entered reached = .error error := by
  -- The three stages come one after another, and the first that fails decides.
  unfold Site.probe at failed
  cases read : Path.read site.path with
  | error cause =>
    simp only [read, Except.error.injEq] at failed
    exact .inl ⟨cause, rfl, failed.symm⟩
  | ok path =>
    simp only [read] at failed
    cases arrived : (path.route focus).arrival with
    | error cause =>
      simp only [Route.probe_of_failure arrived, Except.error.injEq] at failed
      refine .inr (.inl ⟨path, cause, rfl, fun entered reached leads => ?_, failed.symm⟩)
      have arrives : (path.route focus).arrival = .ok (entered, reached) :=
        Route.arrival_eq_ok.2 leads
      simp [arrived] at arrives
    | ok ending =>
      obtain ⟨entered, reached⟩ := ending
      rw [Route.probe_of_arrival arrived, Bool.false_or, Outcome.map_eq_error] at failed
      exact .inr (.inr ⟨path, entered, reached, rfl, Route.arrival_eq_ok.1 arrived, failed⟩)

/-- A probe fails on its way, whatever would be done at its end, or is made from what is done there. -/
theorem probe_cases (site : Site) (focus : DataType) :
    (∃ error, error.location = site.location ∧ ∀ finish, site.probe focus finish = .error error) ∨
      ∃ entered reached wrap, ∀ finish,
        site.probe focus finish = (finish entered reached).map wrap := by
  -- The path and its types settle the outcome before `finish` is asked.
  unfold Site.probe
  cases Path.read site.path with
  | error cause => exact .inl ⟨.malformedPath site cause, rfl, fun finish => rfl⟩
  | ok path =>
    cases arrived : (path.route focus).arrival with
    | error cause =>
      refine .inl ⟨.mismatch site (.route cause), rfl, fun finish => ?_⟩
      exact Route.probe_of_failure arrived false
    | ok ending =>
      obtain ⟨entered, reached⟩ := ending
      refine .inr ⟨entered, reached, (path.route focus).toward site.operator.quantifier, ?_⟩
      intro finish
      rw [← Bool.false_or entered]
      exact Route.probe_of_arrival arrived false

end Site

namespace Filter

variable {settings : Settings} {focus : DataType} {location : Location} {plan : Plan}

/-- A condition's plan leads its test to the end of its path. -/
theorem plan_condition_eq_ok {path : String} {operator : Operator} {value : Option Literal}
    {negated : Bool} :
    (condition path operator value negated).plan settings focus location = .ok plan ↔
      operator.isQuantifier = false ∧ ∃ read entered reached operand, Path.read path = .ok read ∧
        Path.Leads read.segments focus entered reached ∧
        Operand.Built settings (reached.asked operator) operator.demand (value.getD .null)
          operand ∧
        plan = .condition ((read.route focus).toward operator.quantifier
          (reached.testing ⟨operator, operand⟩)) negated := by
  -- A quantifier without a body fails at the end of its path, whatever that leads to.
  simp only [Filter.plan, Outcome.map_eq_ok, Site.probe_eq_ok]
  cases plain : operator.isQuantifier with
  | true => simp
  | false =>
    have plainSite : (⟨location, path, operator⟩ : Site).operator.isQuantifier = false := plain
    simp only [Bool.false_eq_true, if_false, Site.testProbe_eq, Outcome.map_eq_ok,
      Site.operand_eq_ok plainSite, true_and]
    constructor
    · intro given
      rcases given with ⟨_, ⟨read, entered, reached, _, good, leads, ended, rfl⟩, rfl⟩
      rcases ended with ⟨operand, built, rfl⟩
      exact ⟨read, entered, reached, operand, good, leads, built, rfl⟩
    · intro given
      rcases given with ⟨read, entered, reached, operand, good, leads, built, rfl⟩
      exact ⟨_, ⟨read, entered, reached, _, good, leads, ⟨operand, built, rfl⟩, rfl⟩, rfl⟩

/-- A nested condition's plan leads the plan of its body to the end of its path. -/
theorem plan_nested_eq_ok {path : String} {operator : Operator} {body : Filter} {negated : Bool} :
    (nested path operator body negated).plan settings focus location = .ok plan ↔
      operator.isQuantifier = true ∧ ∃ read entered reached inner below,
        Path.read path = .ok read ∧ Path.Leads read.segments focus entered reached ∧
        reached.bodyType? entered = some inner ∧
        body.plan settings inner (location.child 0) = .ok below ∧
        plan = .condition ((read.route focus).toward operator.quantifier
          (reached.handing operator.quantifier below)) negated := by
  -- Without a quantifier the body has no meaning, and without a list nothing to be about.
  simp only [Filter.plan, Outcome.map_eq_ok, Site.probe_eq_ok]
  cases quantifies : operator.isQuantifier with
  | false => simp
  | true =>
    simp only [if_true, true_and]
    constructor
    · intro given
      rcases given with ⟨_, ⟨read, entered, reached, last, good, leads, ended, rfl⟩, rfl⟩
      cases found : reached.bodyType? entered with
      | none => simp [Site.bodyProbe_of_none found] at ended
      | some inner =>
        rw [Site.bodyProbe_of_bodyType found] at ended
        obtain ⟨below, planned, rfl⟩ := Outcome.map_eq_ok.1 ended
        exact ⟨read, entered, reached, inner, below, good, leads, found, planned, rfl⟩
    · intro given
      rcases given with ⟨read, entered, reached, inner, below, good, leads, found, planned, rfl⟩
      refine ⟨_, ⟨read, entered, reached, _, good, leads, ?_, rfl⟩, rfl⟩
      rw [Site.bodyProbe_of_bodyType found, planned]
      rfl

/-- A group's plan joins the plans of its children, of which a strict policy demands some. -/
theorem plan_group_eq_ok {combinator : Combinator} {negated : Bool} {children : List Filter} :
    (group combinator negated children).plan settings focus location = .ok plan ↔
      (children = [] → settings.emptyGroups = .identity) ∧
        ∃ below, plans settings focus location 0 children = .ok below ∧
          plan = .group combinator negated below := by
  -- The policy is asked about the group before any child is planned.
  simp only [Filter.plan]
  split
  · rename_i empty
    simp only [Bool.and_eq_true, List.isEmpty_iff, beq_iff_eq] at empty
    simp [empty]
  · rename_i allowed
    simp only [Bool.and_eq_true, List.isEmpty_iff, beq_iff_eq, not_and] at allowed
    have policy : children = [] → settings.emptyGroups = .identity := by
      intro empty
      cases treated : settings.emptyGroups with
      | identity => rfl
      | reject => exact absurd treated (allowed empty)
    rw [Outcome.map_eq_ok, and_iff_right policy]
    simp only [eq_comm]

/-- The plans of several children are those of the first and of the rest. -/
theorem plans_cons_eq_ok {child : Filter} {rest : List Filter} {index : Nat}
    {below : List Plan} :
    plans settings focus location index (child :: rest) = .ok below ↔
      ∃ first others, child.plan settings focus (location.child index) = .ok first ∧
        plans settings focus location (index + 1) rest = .ok others ∧ below = first :: others := by
  -- The children are planned in order, each under its own index.
  rw [plans, Outcome.cons_eq_ok]

end Filter

end RecordFilter
