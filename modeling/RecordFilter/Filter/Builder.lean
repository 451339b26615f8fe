import RecordFilter.Filter.Basic

/-! Building a filter step by step: a group to which nodes are added. -/

namespace RecordFilter

/-- A group under construction. -/
structure Builder where
  combinator : Combinator
  negated : Bool
  children : List Filter
  deriving Repr

namespace Builder

/-- A group of a combinator without children. -/
def start (combinator : Combinator) : Builder :=
  ⟨combinator, false, []⟩

/-- The same children under another combinator. -/
def combine (builder : Builder) (combinator : Combinator) : Builder :=
  { builder with combinator }

/-- Turns the result of the group around. -/
def negate (builder : Builder) : Builder :=
  { builder with negated := !builder.negated }

/-- Adds a node as the last child. -/
def push (builder : Builder) (node : Filter) : Builder :=
  { builder with children := builder.children ++ [node] }

/-- Adds a condition that compares with a literal. -/
def compare (builder : Builder) (path : String) (operator : Operator) (value : Literal) : Builder :=
  builder.push (.condition path operator (some value) false)

/-- Adds a condition that needs no literal. -/
def check (builder : Builder) (path : String) (operator : Operator) : Builder :=
  builder.push (.condition path operator none false)

/-- Adds a condition that hands what its path reaches to a filter. -/
def nest (builder : Builder) (path : String) (operator : Operator) (body : Filter) : Builder :=
  builder.push (.nested path operator body false)

/-- The filter built so far, which is a group. -/
def build (builder : Builder) : Filter :=
  .group builder.combinator builder.negated builder.children

end Builder

end RecordFilter
