import RecordFilter.Proofs.Predicate.Agreement
import RecordFilter.Proofs.Predicate.Interchange

/-! Conditions on one field of a record: when they compile, and what they ask of the value it holds. -/

namespace RecordFilter

namespace DataType

/-- The type is one of lists. -/
def isList : DataType → Bool
  | .list _ => true
  | _ => false

variable {type : DataType}

/-- Numeric types are no types of lists. -/
theorem isList_of_numeric (numeric : type.isNumeric = true) : type.isList = false := by
  cases type <;> first | rfl | cases numeric

/-- Types whose values have an order are no types of lists. -/
theorem isList_of_ordered (ordered : type.isOrdered = true) : type.isList = false := by
  cases type <;> first | rfl | cases ordered

/-- What is no list has no layer of lists around it. -/
theorem core_of_single (single : type.isList = false) : type.core = type := by
  cases type <;> first | rfl | simp [isList] at single

/-- What is no list is asked about as it is. -/
theorem asked_of_single (single : type.isList = false) (operator : Operator) :
    type.asked operator = type := by
  rw [asked, core_of_single single, ite_self]

/-- What is no list is tested as it is. -/
theorem testing_of_single (single : type.isList = false) (test : Test) :
    type.testing test = .test test := by
  -- Off the lists `somewhere` adds nothing to the test.
  have there : type.somewhere (.test test) = .test test := by
    cases type <;> first | rfl | simp [isList] at single
  rw [testing, there, ite_self]

end DataType

namespace Filter

variable {settings : Settings} {schema : Schema} {path name spelling : String} {type : DataType}
  {operator : Operator} {literal : Option Literal} {negated : Bool}

/-- A path that is a single name reaches the field that the schema knows under it. -/
theorem reaches_field (read : Path.read path = .ok ⟨[⟨name, none⟩]⟩)
    (declared : schema.field? name = some (spelling, type)) :
    Path.Reaches path schema.type false type :=
  ⟨_, read, .field rfl declared .done⟩

/-- A condition on a field compiles when its operator accepts the literal beside the type. -/
theorem compiles_field_iff (read : Path.read path = .ok ⟨[⟨name, none⟩]⟩)
    (declared : schema.field? name = some (spelling, type)) :
    (condition path operator literal negated).Compiles settings schema ↔
      operator.isQuantifier = false ∧ operator.Accepts settings type (literal.getD .null) := by
  -- One segment without an index reaches the declared type and enters no list.
  rw [compiles_iff_wellFormed, wellFormed_reaching_iff (reaches_field read declared)]

/-- A condition on a field that is no list asks its question of the value that a record holds there. -/
theorem test_field {predicate : Predicate} (read : Path.read path = .ok ⟨[⟨name, none⟩]⟩)
    (declared : schema.field? name = some (spelling, type)) (single : type.isList = false)
    (compiled : (condition path operator literal negated).compile settings schema = .ok predicate)
    (record : Record) :
    predicate.test record =
      (operator.asks settings type (literal.getD .null)
        ((record.getExact? spelling).getD .null) != negated) := by
  -- The one step of the path leads from the record as a whole to the value.
  obtain ⟨plan, planned, rfl⟩ := Outcome.map_eq_ok.1 compiled
  obtain ⟨-, _, entered, reached, operand, good, leads, built, rfl⟩ :=
    plan_condition_eq_ok.1 planned
  obtain rfl := Except.ok.inj (read.symm.trans good)
  obtain ⟨-, rfl⟩ := (reaches_field read declared).unique ⟨_, good, leads⟩
  rw [DataType.asked_of_single single] at built
  have route : Route.ofSegments [⟨name, none⟩] schema.type = .step (.field spelling) (.arrive type) :=
    Route.ofSegments_field rfl declared
  rw [Path.route, route, Route.toward, Route.toward, DataType.testing_of_single single]
  exact congrArg (· != negated) (built.test_holds _)

end Filter

end RecordFilter
