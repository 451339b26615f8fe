/-! How large a part of an automaton is. -/

namespace RecordFilter.Automaton

/-- The states of a part, the byte ranges that they choose from, and the branches between states. -/
structure Extent where
  states : Nat
  ranges : Nat
  branches : Nat
  deriving DecidableEq, Repr

namespace Extent

/-- No states at all. -/
def none : Extent :=
  ⟨0, 0, 0⟩

/-- A number of states that lead to one other state each. -/
def simple (states : Nat) : Extent :=
  ⟨states, 0, 0⟩

/-- A number of branches out of states that are there already. -/
def links (branches : Nat) : Extent :=
  ⟨0, 0, branches⟩

/-- Two parts together. -/
def add (left right : Extent) : Extent :=
  ⟨left.states + right.states, left.ranges + right.ranges, left.branches + right.branches⟩

instance : Add Extent :=
  ⟨add⟩

/-- The number of bytes that a part takes up. -/
def size (extent : Extent) : Nat :=
  32 * extent.states + 8 * extent.ranges + 4 * extent.branches

end Extent

end RecordFilter.Automaton
