import RecordFilter.Text.Blank
import RecordFilter.Text.Case

/-! The operators of conditions, and the combinators that join several results into one. -/

namespace RecordFilter

/-- What a condition asks about the values that its path reaches. -/
inductive Operator
  | equal
  | notEqual
  | greaterOrEqual
  | lessOrEqual
  | greaterThan
  | lessThan
  | startsWith
  | endsWith
  | doesNotStartWith
  | doesNotEndWith
  | contains
  | doesNotContain
  | isNull
  | notNull
  | matchesPattern
  | doesNotMatchPattern
  | isIn
  | notIn
  | all
  | any
  deriving DecidableEq, Repr

/-- How the results of the children of a group make up its own. -/
inductive Combinator
  | and
  | or
  | xor
  deriving DecidableEq, Repr

namespace Operator

/-- Every operator, in the order in which names are looked up. -/
def every : List Operator :=
  [.equal, .notEqual, .greaterOrEqual, .lessOrEqual, .greaterThan, .lessThan, .startsWith,
    .endsWith, .doesNotStartWith, .doesNotEndWith, .contains, .doesNotContain, .isNull, .notNull,
    .matchesPattern, .doesNotMatchPattern, .isIn, .notIn, .all, .any]

/-- The name of an operator in filters. -/
def name : Operator → String
  | .equal => "Equal"
  | .notEqual => "NotEqual"
  | .greaterOrEqual => "GreaterOrEqual"
  | .lessOrEqual => "LessOrEqual"
  | .greaterThan => "GreaterThan"
  | .lessThan => "LessThan"
  | .startsWith => "StartsWith"
  | .endsWith => "EndsWith"
  | .doesNotStartWith => "DoesNotStartWith"
  | .doesNotEndWith => "DoesNotEndWith"
  | .contains => "Contains"
  | .doesNotContain => "DoesNotContain"
  | .isNull => "IsNull"
  | .notNull => "NotNull"
  | .matchesPattern => "Matches"
  | .doesNotMatchPattern => "DoesNotMatch"
  | .isIn => "In"
  | .notIn => "NotIn"
  | .all => "All"
  | .any => "Any"

/-- The operator of exactly a name. -/
def ofName? (name : String) : Option Operator :=
  every.find? fun operator => operator.name == name

/-- The operator of a name in any ASCII case, with blanks at its ends passed over. -/
def read? (text : String) : Option Operator :=
  every.find? fun operator => Text.agree operator.name (Text.trim text)

/-- The operator applies a sub-filter to the elements of a collection. -/
def isQuantifier : Operator → Bool
  | .all | .any => true
  | _ => false

/-- The operator asks only whether a value is null. -/
def isNullCheck : Operator → Bool
  | .isNull | .notNull => true
  | _ => false

/-- The operator asks for the order of two values. -/
def isOrdering : Operator → Bool
  | .greaterOrEqual | .lessOrEqual | .greaterThan | .lessThan => true
  | _ => false

/-- The operator looks for a text inside another one. -/
def isTextSearch : Operator → Bool
  | .startsWith | .endsWith | .doesNotStartWith | .doesNotEndWith | .contains | .doesNotContain =>
    true
  | _ => false

/-- The operator holds a text against a pattern. -/
def isPattern : Operator → Bool
  | .matchesPattern | .doesNotMatchPattern => true
  | _ => false

/-- The operator looks for a value among candidates. -/
def isMembership : Operator → Bool
  | .isIn | .notIn => true
  | _ => false

/-- The operator needs something to compare with. -/
def requiresValue (operator : Operator) : Bool :=
  !operator.isNullCheck

/-- The list of operators leaves none out. -/
theorem mem_every (operator : Operator) : operator ∈ every := by
  cases operator <;> simp [every]

/-- The name of an operator leads back to it. -/
theorem ofName?_name (operator : Operator) : ofName? operator.name = some operator := by
  cases operator <;> decide

end Operator

namespace Combinator

/-- The name of a combinator in filters. -/
def name : Combinator → String
  | .and => "And"
  | .or => "Or"
  | .xor => "Xor"

/-- Every combinator. -/
def every : List Combinator :=
  [.and, .or, .xor]

/-- The combinator of exactly a name. -/
def ofName? (name : String) : Option Combinator :=
  every.find? fun combinator => combinator.name == name

/-- The combinator of a name in any ASCII case, with blanks at its ends passed over. -/
def read? (text : String) : Option Combinator :=
  every.find? fun combinator => Text.agree combinator.name (Text.trim text)

/-- The result of a group without children. -/
def identity : Combinator → Bool
  | .and => true
  | .or | .xor => false

/-- Joins two results. -/
def apply : Combinator → Bool → Bool → Bool
  | .and, left, right => left && right
  | .or, left, right => left || right
  | .xor, left, right => left ^^ right

/-- Joins any number of results; one that settles the whole of them leaves the rest unasked. -/
def join (combinator : Combinator) (results : List Bool) : Bool :=
  -- Only of an exclusive choice every result matters.
  match combinator with
  | .and => results.all id
  | .or => results.any id
  | .xor => results.foldl Combinator.xor.apply Combinator.xor.identity

/-- The name of a combinator leads back to it. -/
theorem ofName?_name (combinator : Combinator) : ofName? combinator.name = some combinator := by
  cases combinator <;> decide

/-- The identity leaves the result that follows it as it is. -/
theorem identity_apply (combinator : Combinator) (result : Bool) :
    combinator.apply combinator.identity result = result := by
  cases combinator <;> simp [apply, identity]

/-- Two results are joined alike in either order. -/
theorem apply_comm (combinator : Combinator) (left right : Bool) :
    combinator.apply left right = combinator.apply right left := by
  -- Each of the three is an operation of truth values with that law.
  cases combinator with
  | and => exact Bool.and_comm left right
  | or => exact Bool.or_comm left right
  | xor => exact Bool.xor_comm left right

/-- Three results are joined alike from either side. -/
theorem apply_assoc (combinator : Combinator) (first second third : Bool) :
    combinator.apply (combinator.apply first second) third =
      combinator.apply first (combinator.apply second third) := by
  -- Each of the three is an operation of truth values with that law.
  cases combinator with
  | and => exact Bool.and_assoc first second third
  | or => exact Bool.or_assoc first second third
  | xor => exact Bool.xor_assoc first second third

/-- Joining from an initial result on is applying that result to the others joined. -/
theorem foldl_apply (combinator : Combinator) (initial : Bool) (results : List Bool) :
    results.foldl combinator.apply initial = combinator.apply initial (combinator.join results) := by
  -- Associativity moves each result from the initial one over to the others.
  induction results generalizing initial with
  | nil => cases combinator <;> simp [join, apply, identity]
  | cons result rest ih =>
    rw [List.foldl_cons, ih, apply_assoc]
    refine congrArg (combinator.apply initial) ?_
    cases combinator with
    | and | or => simp [join, apply]
    | xor =>
      have first : Combinator.xor.join (result :: rest) =
          rest.foldl Combinator.xor.apply (Combinator.xor.apply false result) := rfl
      rw [first, ih]
      simp [apply]

/-- Results are joined one after another, from the identity on. -/
theorem join_eq_foldl (combinator : Combinator) (results : List Bool) :
    combinator.join results = results.foldl combinator.apply combinator.identity := by
  rw [foldl_apply, identity_apply]

end Combinator

end RecordFilter
