import RecordFilter.Filter.Operator
import RecordFilter.Pattern.Basic
import RecordFilter.Text.Search
import RecordFilter.Value.Order

/-! The relations that operators ask about, between a value and what it is compared with. -/

namespace RecordFilter

/-- What a value is compared with. -/
inductive Operand
  | none
  | value (expected : Value)
  | set (candidates : List Value)
  | pattern (pattern : Pattern)
  deriving Repr

namespace Operand

/-- The single value of an operand. -/
def value? : Operand → Option Value
  | .value expected => some expected
  | _ => Option.none

/-- The text of an operand that is a single string. -/
def text? (operand : Operand) : Option String :=
  operand.value?.bind Value.text?

end Operand

/-- A relation between a value and an operand; it fails where the operand has the wrong form. -/
abbrev Relation : Type :=
  Value → Operand → Bool

namespace Relation

/-- The negation of a relation, which holds also where a value or an operand does not fit. -/
def negate (relation : Relation) : Relation :=
  fun actual operand => !relation actual operand

/-- The value equals that of the operand. -/
def equal : Relation :=
  fun actual operand => operand.value?.any actual.equal

/-- The value has a place in the order relative to the operand's, and the place is acceptable. -/
def ordered (acceptable : Ordering → Bool) : Relation :=
  fun actual operand => (operand.value?.bind actual.compare?).any acceptable

/-- The value and the operand are texts of which a test holds. -/
def textual (test : String → String → Bool) : Relation :=
  fun actual operand =>
    match actual.text?, operand.text? with
    | some text, some sought => test text sought
    | _, _ => false

/-- The value is null. -/
def null : Relation :=
  fun actual _ => actual.isNull

/-- The value is a text in which the operand's pattern occurs. -/
def patterned : Relation :=
  fun actual operand =>
    match actual.text?, operand with
    | some text, .pattern pattern => pattern.occursIn text
    | _, _ => false

/-- The value equals one of the candidates. -/
def member : Relation :=
  fun actual operand =>
    match operand with
    | .set candidates => candidates.any actual.equal
    | _ => false

end Relation

/-- The relation that an operator asks about; quantifiers ask about none themselves. -/
def Operator.relation? : Operator → Option Relation
  | .equal => some .equal
  | .notEqual => some (.negate .equal)
  | .greaterOrEqual => some (.ordered Ordering.isGE)
  | .lessOrEqual => some (.ordered Ordering.isLE)
  | .greaterThan => some (.ordered Ordering.isGT)
  | .lessThan => some (.ordered Ordering.isLT)
  | .startsWith => some (.textual Text.startsWith)
  | .endsWith => some (.textual Text.endsWith)
  | .doesNotStartWith => some (.negate (.textual Text.startsWith))
  | .doesNotEndWith => some (.negate (.textual Text.endsWith))
  | .contains => some (.textual Text.contains)
  | .doesNotContain => some (.negate (.textual Text.contains))
  | .isNull => some .null
  | .notNull => some (.negate .null)
  | .matchesPattern => some .patterned
  | .doesNotMatchPattern => some (.negate .patterned)
  | .isIn => some .member
  | .notIn => some (.negate .member)
  | .all => none
  | .any => none

end RecordFilter
