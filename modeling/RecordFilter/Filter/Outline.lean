import RecordFilter.Filter.Basic

/-! The outline of a filter: a line for each node, indented by its depth. -/

namespace RecordFilter

namespace Literal

mutual
/-- A literal as the outline shows it: only a string that stands alone has quotes. -/
def outlined : Literal → String
  | .string chars => inQuotes chars
  | .list items => "[" ++ Text.joined ", " (outlinedItems items) ++ "]"
  | literal => literal.text
/-- The items of a list as the outline shows them. -/
def outlinedItems : List Literal → List String
  -- Lists inside a list keep their brackets.
  | [] => []
  | .string chars :: rest => chars :: outlinedItems rest
  | item :: rest => item.outlined :: outlinedItems rest
end

end Literal

namespace Filter

/-- Two spaces for each level. -/
def indentation (level : Nat) : String :=
  String.ofList (List.replicate (2 * level) ' ')

/-- A truth value as a word. -/
def truthWord (value : Bool) : String :=
  if value then "true" else "false"

/-- The line of a condition, given what it shows as the value. -/
def conditionLine (level : Nat) (path : String) (operator : Operator) (value : String) : String :=
  indentation level ++ "Property: " ++ path ++ ", Filter: " ++ operator.name ++ ", Value: " ++ value

/-- The line of a group. -/
def groupLine (level : Nat) (combinator : Combinator) (negated : Bool) : String :=
  indentation level ++ "Operator: " ++ combinator.name ++ ", Not: " ++ truthWord negated

mutual
/-- The lines of a filter whose own line stands at a level. -/
def outlineLines (level : Nat) : Filter → List String
  -- A body stands one level below its condition, and children below their group.
  | .condition path operator value _ =>
    [conditionLine level path operator ((value.map Literal.outlined).getD "null")]
  | .nested path operator body _ =>
    conditionLine level path operator "<filter>" :: outlineLines (level + 1) body
  | .group combinator negated children =>
    groupLine level combinator negated :: outlineLinesAll (level + 1) children
/-- The lines of several filters at one level. -/
def outlineLinesAll (level : Nat) : List Filter → List String
  | [] => []
  | child :: rest => outlineLines level child ++ outlineLinesAll level rest
end

/-- The outline of a filter from a level on, each line of it ended. -/
def outline (filter : Filter) (level : Nat) : String :=
  String.join ((filter.outlineLines level).map (· ++ "\n"))

end Filter

end RecordFilter
