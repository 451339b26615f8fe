import RecordFilter.Filter.Literal
import RecordFilter.Filter.Operator

/-! Filters: trees of conditions and groups, as they are written and before they are checked. -/

namespace RecordFilter

/-- A filter; a nested condition hands the values that its path reaches to a filter of their own. -/
inductive Filter
  | condition (path : String) (operator : Operator) (value : Option Literal) (negated : Bool)
  | nested (path : String) (operator : Operator) (body : Filter) (negated : Bool)
  | group (combinator : Combinator) (negated : Bool) (children : List Filter)
  deriving Repr

namespace Filter

/-- The result of the filter is turned around. -/
def isNegated : Filter → Bool
  | .condition _ _ _ negated | .nested _ _ _ negated | .group _ negated _ => negated

/-- The filter with its result turned around. -/
def negate : Filter → Filter
  | .condition path operator value negated => .condition path operator value !negated
  | .nested path operator body negated => .nested path operator body !negated
  | .group combinator negated children => .group combinator (!negated) children

/-- Turning the result around twice restores it. -/
theorem negate_negate (filter : Filter) : filter.negate.negate = filter := by
  cases filter <;> simp [negate]

mutual
/-- The number of nodes of a filter, those of bodies included. -/
def nodeCount : Filter → Nat
  | .condition _ _ _ _ => 1
  | .nested _ _ body _ => 1 + body.nodeCount
  | .group _ _ children => 1 + nodeCounts children
/-- The number of nodes of several filters. -/
def nodeCounts : List Filter → Nat
  | [] => 0
  | child :: rest => child.nodeCount + nodeCounts rest
end

end Filter

end RecordFilter
