import RecordFilter.Predicate.Basic
import RecordFilter.Proofs.Predicate.Planning

/-! What a filter says about values, read off its tree by their types and without any plan. -/

namespace RecordFilter

/-- A value that a condition asks about, and the type under which the path reaches it. -/
structure Leaf where
  type : DataType
  value : Value

namespace Value

/-- The items of a list; whatever is no list has none. -/
def entries : Value → List Value
  | .list items => items
  | _ => []

/-- What a record holds under exactly a name, and null in place of whatever is missing. -/
def member (name : String) : Value → Value
  | .record fields => (Fields.getExact? name fields).getD .null
  | _ => .null

/-- The item of a list at a place, and null in place of whatever is missing. -/
def entry (place : UInt64) : Value → Value
  | .list items => items[place.toNat]?.getD .null
  | _ => .null

end Value

/-- Goes through the elements of lists, also of lists in lists, to what is no list by its type. -/
def DataType.throughout (follow : DataType → Value → List Leaf) : DataType → Value → List Leaf
  | .list element, value => value.entries.flatMap (element.throughout follow)
  | type, value => follow type value

/-- The leaves beyond the field that a segment names, and beyond the item at its index. -/
def Segment.leaves (segment : Segment) (follow : DataType → Value → List Leaf) :
    DataType → Value → List Leaf
  -- The value is looked up under the schema's own spelling of the name.
  | .record _ fields, value =>
    match Fields.lookup? segment.name fields, segment.index with
    | some (field, type), none => follow type (value.member field)
    | some (field, .list element), some place => follow element ((value.member field).entry place)
    | _, _ => []
  | _, _ => []

namespace Operator

/-- The leaves of a value that a whole path has reached. -/
def ends (operator : Operator) (type : DataType) (value : Value) : List Leaf :=
  -- A null check keeps a list whole, a quantifier opens one, and other operators open them all.
  match operator.demand, type with
  | .nothing, type => [⟨type, value⟩]
  | .body, .list element => value.entries.map (Leaf.mk element)
  | .body, type => [⟨type, value⟩]
  | _, type => type.throughout (fun core value => [⟨core, value⟩]) value

/-- The leaves of a value that the segments of a path lead to. -/
def leaves (operator : Operator) : List Segment → DataType → Value → List Leaf
  -- Before each segment the lists that have been reached are entered.
  | [] => operator.ends
  | segment :: rest => DataType.throughout (segment.leaves (operator.leaves rest))

/-- The leaves that the text of a path leads to; a text that is no path leads nowhere. -/
def leavesAt (operator : Operator) (path : String) (type : DataType) (value : Value) :
    List Leaf :=
  match Path.read path with
  | .ok path => operator.leaves path.segments type value
  | .error _ => []

/-- One operator asks for every leaf to pass, and the others for some leaf. -/
def among (operator : Operator) (test : Leaf → Bool) (leaves : List Leaf) : Bool :=
  match operator with
  | .all => leaves.all test
  | _ => leaves.any test

end Operator

namespace Literal

/-- A value equals what the literal stands for beside values of the type. -/
def equals (type : DataType) (literal : Literal) (actual : Value) : Bool :=
  (literal.coerce type).toOption.any actual.equal

/-- The order of a value and what the literal stands for beside values of the type. -/
def ranks (type : DataType) (literal : Literal) (acceptable : Ordering → Bool) (actual : Value) :
    Bool :=
  (literal.coerce type).toOption.any fun bound => (actual.compare? bound).any acceptable

/-- A test holds of the texts that a value and the literal are. -/
def compares (literal : Literal) (test : String → String → Bool) (actual : Value) : Bool :=
  match actual.text?, literal.text? with
  | some text, some sought => test text sought
  | _, _ => false

/-- The pattern that the literal writes occurs in the text that a value is. -/
def occurs (settings : Settings) (literal : Literal) (actual : Value) : Bool :=
  literal.compares
    (fun text written => (Pattern.compile? settings.patternLimit.toNat written).any
      fun pattern => pattern.occursIn text) actual

/-- A value equals what one of the literal's items stands for. -/
def lists (type : DataType) (literal : Literal) (actual : Value) : Bool :=
  (literal.items?.getD []).any fun item => item.equals type actual

end Literal

/-- What an operator asks about a value, beside the literal of its condition. -/
def Operator.asks (settings : Settings) (type : DataType) (literal : Literal) (actual : Value) :
    Operator → Bool
  | .equal => literal.equals type actual
  | .notEqual => !literal.equals type actual
  | .greaterThan => literal.ranks type Ordering.isGT actual
  | .greaterOrEqual => literal.ranks type Ordering.isGE actual
  | .lessThan => literal.ranks type Ordering.isLT actual
  | .lessOrEqual => literal.ranks type Ordering.isLE actual
  | .startsWith => literal.compares Text.startsWith actual
  | .doesNotStartWith => !literal.compares Text.startsWith actual
  | .endsWith => literal.compares Text.endsWith actual
  | .doesNotEndWith => !literal.compares Text.endsWith actual
  | .contains => literal.compares Text.contains actual
  | .doesNotContain => !literal.compares Text.contains actual
  | .isNull => actual.isNull
  | .notNull => !actual.isNull
  | .matchesPattern => literal.occurs settings actual
  | .doesNotMatchPattern => !literal.occurs settings actual
  | .isIn => literal.lists type actual
  | .notIn => !literal.lists type actual
  -- Quantifiers leave the question to a sub-filter.
  | .all | .any => false

namespace Filter

mutual
/-- What a filter says about a value that is read under a type. -/
def reading (settings : Settings) (type : DataType) (value : Value) : Filter → Bool
  -- A missing literal counts as null.
  | .condition path operator literal negated =>
    operator.among (fun leaf => operator.asks settings leaf.type (literal.getD .null) leaf.value)
      (operator.leavesAt path type value) != negated
  | .nested path operator body negated =>
    operator.among (fun leaf => body.reading settings leaf.type leaf.value)
      (operator.leavesAt path type value) != negated
  | .group combinator negated children =>
    (readings settings type value children).foldl combinator.apply combinator.identity != negated
/-- What each of several filters says about a value. -/
def readings (settings : Settings) (type : DataType) (value : Value) : List Filter → List Bool
  | [] => []
  | child :: rest => child.reading settings type value :: readings settings type value rest
end

end Filter

end RecordFilter
