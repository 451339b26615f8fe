import RecordFilter.Predicate.Compile

/-! Predicates: compiled filters as tests of records and values. -/

namespace RecordFilter

/-- A filter compiled against a schema. -/
structure Predicate where
  plan : Plan
  schemaName : String

/-- Compiles a filter against a schema. -/
def Filter.compile (settings : Settings) (schema : Schema) (filter : Filter) :
    Except CompileError Predicate :=
  (filter.plan settings schema.type .root).map fun plan => ⟨plan, schema.name⟩

namespace Predicate

/-- The predicate holds of a record. -/
def test (predicate : Predicate) (record : Record) : Bool :=
  predicate.plan.holds (.record record)

/-- The predicate holds of a value. -/
def testValue (predicate : Predicate) (value : Value) : Bool :=
  predicate.plan.holds (.value value)

/-- The records of which the predicate holds. -/
def filter (predicate : Predicate) (records : List Record) : List Record :=
  records.filter predicate.test

/-- The number of nodes of the compiled filter. -/
def nodeCount (predicate : Predicate) : Nat :=
  predicate.plan.nodeCount

end Predicate

end RecordFilter
