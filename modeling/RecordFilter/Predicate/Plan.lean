import RecordFilter.Predicate.Focus
import RecordFilter.Predicate.Relation

/-! Plans: filters with every path resolved and every literal understood, ready to be evaluated. -/

namespace RecordFilter

/-- How the results for the elements of a list make up one. -/
inductive Quantifier
  | all
  | any
  deriving DecidableEq, Repr

/-- An operator and what values are compared with. -/
structure Test where
  operator : Operator
  operand : Operand
  deriving Repr

mutual
/-- A filter that is ready to be evaluated. -/
inductive Plan
  | group (combinator : Combinator) (negated : Bool) (children : List Plan)
  | condition (probe : Probe) (negated : Bool)
/-- The way from a focus to the values that a condition inspects, and what is asked of them there. -/
inductive Probe
  | step (taken : Step) (next : Probe)
  | each (quantifier : Quantifier) (element : Probe)
  | test (asked : Test)
  | body (plan : Plan)
end

/-- The operator's relation holds of a value; an operator without one never holds. -/
def Test.holds (test : Test) (actual : Value) : Bool :=
  test.operator.relation?.any fun relation => relation actual test.operand

/-- The quantifier joins the results of a test for some values. -/
def Quantifier.over (quantifier : Quantifier) (test : Value → Bool) (values : List Value) : Bool :=
  match quantifier with
  | .all => values.all test
  | .any => values.any test

mutual
/-- The plan holds of what is in focus. -/
def Plan.holds (focus : Focus) : Plan → Bool
  | .group combinator negated children =>
    combinator.join (Plan.results focus children) != negated
  | .condition probe negated => probe.holds focus != negated
/-- The results of several plans. -/
def Plan.results (focus : Focus) : List Plan → List Bool
  | [] => []
  | child :: rest => child.holds focus :: Plan.results focus rest
/-- What a probe asks holds of the values it leads to. -/
def Probe.holds (focus : Focus) : Probe → Bool
  | .step taken next => next.holds (focus.take taken)
  | .each quantifier element =>
    quantifier.over (fun item => element.holds (.value item)) focus.elements
  | .test asked => asked.holds focus.content
  | .body plan => plan.holds focus
end

mutual
/-- The number of groups and conditions of a plan, those of bodies included. -/
def Plan.nodeCount : Plan → Nat
  | .group _ _ children => 1 + Plan.nodeCounts children
  | .condition probe _ => 1 + probe.nodeCount
/-- The number of nodes of several plans. -/
def Plan.nodeCounts : List Plan → Nat
  | [] => 0
  | child :: rest => child.nodeCount + Plan.nodeCounts rest
/-- The number of nodes of the body that a probe ends in. -/
def Probe.nodeCount : Probe → Nat
  | .step _ next => next.nodeCount
  | .each _ element => element.nodeCount
  | .test _ => 0
  | .body plan => plan.nodeCount
end

end RecordFilter
