import RecordFilter.Predicate.Compile

/-! Filters interpreted without a schema: the tree is read as it stands, and lists are told by the values. -/

namespace RecordFilter

namespace Literal

mutual
/-- The value that a literal is, whatever it stands beside. -/
def value : Literal → Value
  | .null => .null
  | .boolean value => .boolean value
  | .int value => .int value
  | .float value => .float value
  | .string text => .string text
  | .list items => .list (values items)
  | .date day => .date day
  | .timestamp time => .timestamp time
/-- The values that several literals are. -/
def values : List Literal → List Value
  | [] => []
  | item :: rest => item.value :: values rest
end

end Literal

namespace Value

/-- Two values are the same null, integer, text or truth value; of other kinds none is the same as another. -/
def same : Value → Value → Bool
  | .null, .null => true
  | .int left, .int right => left == right
  | .string left, .string right => left == right
  | .boolean left, .boolean right => left == right
  | _, _ => false

/-- Two values are integers of which a test holds. -/
def integers (test : Int64 → Int64 → Bool) : Value → Value → Bool
  | .int left, .int right => test left right
  | _, _ => false

/-- Two values are texts of which a test holds. -/
def texts (test : String → String → Bool) : Value → Value → Bool
  | .string left, .string right => test left right
  | _, _ => false

/-- A value is the same as one of those in a list. -/
def isAmong (actual : Value) : Value → Bool
  | .list candidates => candidates.any actual.same
  | _ => false

/-- The pattern that one text writes occurs in another; there is no answer if it writes none. -/
def matched? : Value → Value → Option Bool
  | .string text, .string written =>
    (Pattern.compile? Pattern.freeLimit written).map fun pattern => pattern.occursIn text
  | _, _ => some false

end Value

/-- What an operator finds of two values; quantifiers find nothing by themselves. -/
def Operator.judge? (operator : Operator) (actual expected : Value) : Option Bool :=
  match operator with
  | .equal => some (actual.same expected)
  | .notEqual => some !actual.same expected
  | .greaterThan => some (actual.integers (· > ·) expected)
  | .greaterOrEqual => some (actual.integers (· ≥ ·) expected)
  | .lessThan => some (actual.integers (· < ·) expected)
  | .lessOrEqual => some (actual.integers (· ≤ ·) expected)
  | .startsWith => some (actual.texts Text.startsWith expected)
  | .doesNotStartWith => some !actual.texts Text.startsWith expected
  | .endsWith => some (actual.texts Text.endsWith expected)
  | .doesNotEndWith => some !actual.texts Text.endsWith expected
  | .contains => some (actual.texts Text.contains expected)
  | .doesNotContain => some !actual.texts Text.contains expected
  | .isNull => some actual.isNull
  | .notNull => some !actual.isNull
  | .matchesPattern => actual.matched? expected
  | .doesNotMatchPattern => (actual.matched? expected).map not
  | .isIn => some (actual.isAmong expected)
  | .notIn => some !actual.isAmong expected
  | .all | .any => none

/-- Asks values in turn until an answer settles the whole; where one has no answer, there is none. -/
def Quantifier.poll? (quantifier : Quantifier) (ask : Value → Option Bool) :
    List Value → Option Bool
  | [] => some (quantifier == .all)
  | value :: rest => do
    let answer ← ask value
    if answer == (quantifier == .all) then poll? quantifier ask rest else return answer

/-- Asks each item of a list, or a value that is no list. -/
def Quantifier.hand? (quantifier : Quantifier) (ask : Value → Option Bool) : Value → Option Bool
  | .list items => quantifier.poll? ask items
  | value => ask value

mutual
/-- Asks a value or, if it is a list, what it holds, also in lists inside of it. -/
def Value.visit? (quantifier : Quantifier) (ask : Value → Option Bool) : Value → Option Bool
  | .list items => visitItems? quantifier ask items
  | value => ask value
/-- Visits the items of a list in turn until an answer settles the whole. -/
def Value.visitItems? (quantifier : Quantifier) (ask : Value → Option Bool) :
    List Value → Option Bool
  | [] => some (quantifier == .all)
  | item :: rest => do
    let answer ← item.visit? quantifier ask
    if answer == (quantifier == .all) then visitItems? quantifier ask rest else return answer
end

namespace Segment

/-- What a value that is no list holds under the name of a segment; null stands for what is missing. -/
def held (segment : Segment) : Value → Value
  | .record fields => (Fields.get? segment.name fields).getD .null
  | _ => .null

/-- What a segment finds in a value that is no list: what is held there, or the item at its index. -/
def target (segment : Segment) (value : Value) : Value :=
  match segment.index with
  | none => segment.held value
  | some place => (Focus.value (segment.held value)).item place

/-- Follows segments through a value, entering every list before each of them, and asks at the end. -/
def follow? (quantifier : Quantifier) (ask : Value → Option Bool) :
    List Segment → Value → Option Bool
  | [], value => ask value
  | segment :: rest, value =>
    value.visit? quantifier fun found => follow? quantifier ask rest (segment.target found)

end Segment

/-- What a condition with a literal finds at the end of its path; a quantifier has to have a body. -/
def Operator.finish? (operator : Operator) (literal : Literal) (value : Value) : Option Bool :=
  -- A null check looks at a list itself, and other operators for something in it.
  if operator.isQuantifier then none
  else if operator.isNullCheck then operator.judge? value literal.value
  else value.visit? .any fun item => operator.judge? item literal.value

namespace Filter

mutual
/-- What a filter says about a value, unless it is broken where it is met. -/
def interpret? (value : Value) : Filter → Option Bool
  -- A missing literal counts as null, and so does a body where none is wanted.
  | .condition path operator literal negated => do
    let path ← (Path.read path).toOption
    let answer ← Segment.follow? operator.quantifier (operator.finish? (literal.getD .null))
      path.segments value
    return answer != negated
  | .nested path operator body negated => do
    let path ← (Path.read path).toOption
    let answer ← Segment.follow? operator.quantifier (fun reached =>
      if operator.isQuantifier then
        operator.quantifier.hand? (fun item => body.interpret? item) reached
      else operator.finish? .null reached) path.segments value
    return answer != negated
  | .group combinator negated children => do
    let answer ← interpretAll? value combinator combinator.identity children
    return answer != negated
/-- Joins what several filters say about a value, all of them, to a first result. -/
def interpretAll? (value : Value) (combinator : Combinator) (joined : Bool) :
    List Filter → Option Bool
  | [] => some joined
  | child :: rest => do
    let answer ← child.interpret? value
    interpretAll? value combinator (combinator.apply joined answer) rest
end

end Filter

end RecordFilter
