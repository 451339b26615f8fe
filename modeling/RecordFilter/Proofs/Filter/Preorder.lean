import RecordFilter.Filter.Basic
import Mathlib.Data.List.Forall2

/-! The nodes of a filter in the order of reading, and the shape that their depths bring back. -/

namespace RecordFilter.Filter

/-- The filters right below a node: its children, or its body. -/
def branches : Filter → List Filter
  | .condition _ _ _ _ => []
  | .nested _ _ body _ => [body]
  | .group _ _ children => children

mutual
/-- The nodes of a filter in pre-order, each beside its depth, from the depth of the root on. -/
def preorder (depth : Nat) : Filter → List (Nat × Filter)
  | .condition path operator value negated => [(depth, .condition path operator value negated)]
  | .nested path operator body negated =>
    (depth, .nested path operator body negated) :: preorder (depth + 1) body
  | .group combinator negated children =>
    (depth, .group combinator negated children) :: preorderAll (depth + 1) children
/-- The nodes of several filters in pre-order, the roots of which have one depth. -/
def preorderAll (depth : Nat) : List Filter → List (Nat × Filter)
  | [] => []
  | child :: rest => preorder depth child ++ preorderAll depth rest
end

/-- What a node is by itself, apart from its literal and the negation of conditions. -/
inductive Heading
  | condition (path : String) (operator : Operator)
  | group (combinator : Combinator) (negated : Bool)
  deriving DecidableEq, Repr

/-- The heading of a node; a condition has the same one with a body and without. -/
def heading : Filter → Heading
  | .condition path operator _ _ | .nested path operator _ _ => .condition path operator
  | .group combinator negated _ => .group combinator negated

/-- Nodes with their depths, of which only the headings are left. -/
def headings (nodes : List (Nat × Filter)) : List (Nat × Heading) :=
  nodes.map fun node => (node.1, node.2.heading)

/-- Filters of one shape: conditions agree in path and operator, groups in combinator and negation. -/
inductive Congruent : Filter → Filter → Prop
  | condition {path : String} {operator : Operator} {value other : Option Literal}
      {negated turned : Bool} :
      Congruent (.condition path operator value negated) (.condition path operator other turned)
  | nested {path : String} {operator : Operator} {body other : Filter} {negated turned : Bool}
      (below : Congruent body other) :
      Congruent (.nested path operator body negated) (.nested path operator other turned)
  | group {combinator : Combinator} {negated : Bool} {children others : List Filter}
      (below : List.Forall₂ Congruent children others) :
      Congruent (.group combinator negated children) (.group combinator negated others)

variable {first second : Filter}

/-- A node comes before those below it. -/
theorem preorder_eq (depth : Nat) (filter : Filter) :
    filter.preorder depth = (depth, filter) :: preorderAll (depth + 1) filter.branches := by
  cases filter <;> simp [preorder, preorderAll, branches]

/-- A node is counted together with those below it. -/
theorem nodeCount_eq (filter : Filter) : filter.nodeCount = 1 + nodeCounts filter.branches := by
  cases filter <;> simp [nodeCount, nodeCounts, branches]

mutual
/-- Every node is met once in pre-order. -/
theorem length_preorder (filter : Filter) (depth : Nat) :
    (filter.preorder depth).length = filter.nodeCount := by
  -- The node itself stands first, and the rest is counted at the depth below.
  cases filter with
  | condition path operator value negated => rfl
  | nested path operator body negated =>
    rw [preorder, nodeCount, List.length_cons, length_preorder body, Nat.add_comm]
  | group combinator negated children =>
    rw [preorder, nodeCount, List.length_cons, length_preorderAll children, Nat.add_comm]
/-- Every node of several filters is met once in pre-order. -/
theorem length_preorderAll (filters : List Filter) (depth : Nat) :
    (preorderAll depth filters).length = nodeCounts filters := by
  -- The rows of nodes follow each other, so their lengths add up.
  cases filters with
  | nil => rfl
  | cons child rest =>
    rw [preorderAll, nodeCounts, List.length_append, length_preorder child,
      length_preorderAll rest]
end

/-- Nodes of one heading are congruent when those below them are. -/
theorem Congruent.of_heading (same : first.heading = second.heading)
    (below : List.Forall₂ Congruent first.branches second.branches) : Congruent first second := by
  -- Whether a condition has a body shows in the number of its branches.
  cases first with
  | condition path operator value negated =>
    cases second with
    | condition =>
      obtain ⟨rfl, rfl⟩ := Heading.condition.inj same
      exact .condition
    | nested => cases below
    | group => cases same
  | nested path operator body negated =>
    cases second with
    | condition => cases below
    | nested =>
      obtain ⟨rfl, rfl⟩ := Heading.condition.inj same
      cases below with
      | cons one => exact .nested one
    | group => cases same
  | group combinator negated children =>
    cases second with
    | condition | nested => cases same
    | group =>
      obtain ⟨rfl, rfl⟩ := Heading.group.inj same
      exact .group below

/-- The headings of filters are that of the first root, those below it and those of the rest. -/
theorem headings_preorderAll_cons (depth : Nat) (filter : Filter) (rest : List Filter) :
    headings (preorderAll depth (filter :: rest)) =
      (depth, filter.heading) :: (headings (preorderAll (depth + 1) filter.branches) ++
        headings (preorderAll depth rest)) := by
  -- The first root is taken off its row, in which those below it remain.
  rw [preorderAll, preorder_eq]
  simp [headings]

/-- Headings that begin above a depth, so that none of them belongs to nodes of that depth. -/
def Above (depth : Nat) (headings : List (Nat × Heading)) : Prop :=
  ∀ entry ∈ headings.head?, entry.1 < depth

/-- What follows the nodes below a root are the next roots, or what follows all of them. -/
theorem Above.preorderAll {depth : Nat} {after : List (Nat × Heading)} (above : Above depth after)
    (filters : List Filter) :
    Above (depth + 1) (headings (Filter.preorderAll depth filters) ++ after) := by
  -- The next root stands at the depth itself, which is above the one below it.
  cases filters with
  | nil => exact fun entry member => Nat.lt_succ_of_lt (above entry member)
  | cons filter rest =>
    rw [headings_preorderAll_cons]
    intro entry member
    obtain rfl := Option.some.inj member
    exact Nat.lt_succ_self depth

/-- The headings of filters in pre-order determine their shapes, and where those headings end. -/
theorem congruent_of_headings {depth : Nat} {after afterOther : List (Nat × Heading)}
    (above : Above depth after) (aboveOther : Above depth afterOther) (filters others : List Filter)
    (same : headings (preorderAll depth filters) ++ after =
      headings (preorderAll depth others) ++ afterOther) :
    List.Forall₂ Congruent filters others ∧ after = afterOther := by
  -- A further root on one side alone would have its depth where only smaller ones may follow.
  match filters, others with
  | [], [] => exact ⟨.nil, same⟩
  | [], other :: more =>
    have begins : after = headings (preorderAll depth (other :: more)) ++ afterOther := same
    rw [headings_preorderAll_cons] at begins
    rw [begins] at above
    exact absurd (above _ rfl) (Nat.lt_irrefl depth)
  | filter :: rest, [] =>
    have begins : headings (preorderAll depth (filter :: rest)) ++ after = afterOther := same
    rw [headings_preorderAll_cons] at begins
    rw [← begins] at aboveOther
    exact absurd (aboveOther _ rfl) (Nat.lt_irrefl depth)
  | filter :: rest, other :: more =>
    rw [headings_preorderAll_cons, headings_preorderAll_cons] at same
    simp only [List.cons_append, List.append_assoc, List.cons.injEq, Prod.mk.injEq,
      true_and] at same
    obtain ⟨heading, beneath⟩ := same
    obtain ⟨below, next⟩ := congruent_of_headings (above.preorderAll rest)
      (aboveOther.preorderAll more) filter.branches other.branches beneath
    obtain ⟨beside, ends⟩ := congruent_of_headings above aboveOther rest more next
    exact ⟨.cons (.of_heading heading below) beside, ends⟩
termination_by nodeCounts filters
decreasing_by
  all_goals
    rw [nodeCounts, nodeCount_eq]
    omega

/-- Filters with the same headings in pre-order are congruent. -/
theorem congruent_of_preorder {depth : Nat}
    (same : headings (first.preorder depth) = headings (second.preorder depth)) :
    Congruent first second := by
  -- A single filter is a list of one, after which nothing follows.
  have nothing : Above depth [] := nofun
  have alone (filter : Filter) :
      headings (preorderAll depth [filter]) ++ [] = headings (filter.preorder depth) := by
    simp [preorderAll]
  obtain ⟨below, -⟩ := congruent_of_headings nothing nothing [first] [second]
    ((alone first).trans (same.trans (alone second).symm))
  cases below with
  | cons one => exact one

end RecordFilter.Filter
