import RecordFilter.Predicate.Basic

/-! Types of values that filters apply to by way of records. -/

namespace RecordFilter

/-- A type whose values can be seen as records of a schema of its own. -/
class Entity (α : Type) where
  schema : Schema
  record : α → Record

/-- A predicate compiled for an entity. -/
structure EntityPredicate (α : Type) where
  predicate : Predicate

/-- Compiles a filter for an entity. -/
def Filter.compileFor (α : Type) [Entity α] (settings : Settings) (filter : Filter) :
    Except CompileError (EntityPredicate α) :=
  (filter.compile settings (Entity.schema α)).map EntityPredicate.mk

namespace EntityPredicate

variable {α : Type} [Entity α]

/-- The predicate holds of an entity. -/
def test (compiled : EntityPredicate α) (entity : α) : Bool :=
  compiled.predicate.test (Entity.record entity)

/-- The entities of which the predicate holds. -/
def filter (compiled : EntityPredicate α) (entities : List α) : List α :=
  entities.filter compiled.test

end EntityPredicate

end RecordFilter
