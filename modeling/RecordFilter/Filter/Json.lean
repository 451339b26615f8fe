import RecordFilter.Filter.Basic
import RecordFilter.Json.Member
import RecordFilter.Json.Text

/-! Filters as JSON: an object for each node, or an array that begins with the kind of the node. -/

namespace RecordFilter

namespace Literal

mutual
/-- The literal of a JSON value; no object is one, and dates arrive as strings. -/
def ofJson? : Json → Option Literal
  -- A number that is no 64-bit integer is taken as binary64.
  | .null => some .null
  | .boolean value => some (.boolean value)
  | .number number => some ((number.int64?.map Literal.int).getD (.float number.double))
  | .string text => some (.string text)
  | .array items => (itemsOfJson? items).map .list
  | .object _ => none
/-- The literals of several JSON values. -/
def itemsOfJson? : List Json → Option (List Literal)
  | [] => some []
  | json :: rest => do
    let item ← ofJson? json
    let items ← itemsOfJson? rest
    return item :: items
end

mutual
/-- The JSON value of a literal; dates and timestamps become strings. -/
def toJson : Literal → Json
  | .null => .null
  | .boolean value => .boolean value
  | .int value => .number (.integer value.toInt)
  | .float value => .number (.float value)
  | .string chars => .string chars
  | .list items => .array (itemsToJson items)
  | .date day => .string day.text
  | .timestamp time => .string time.storedText
/-- The JSON values of several literals. -/
def itemsToJson : List Literal → List Json
  | [] => []
  | item :: rest => item.toJson :: itemsToJson rest
end

end Literal

/-- A name that stands for itself: alone, or in an object as the name of nothing. -/
def Json.word? : Json → Option String
  | .string name => some name
  | .object [(name, .null)] => some name
  | .object [(name, .object [])] => some name
  | _ => none

namespace Filter

open Json (fill?)

/-- The kinds of nodes, of which nested conditions are not told apart. -/
inductive NodeKind
  | condition
  | group
  deriving DecidableEq, Repr

/-- The kind that a JSON value names; below the root its number may stand instead of its name. -/
def kind? (root : Bool) : Json → Option NodeKind
  | .string "condition" => some .condition
  | .string "group" => some .group
  | .number (.integer 0) => if root then none else some .condition
  | .number (.integer 1) => if root then none else some .group
  | _ => none

/-- The kind of a node, which exactly one of its members names. -/
def kindOf? (root : Bool) (members : List (String × Json)) : Option NodeKind :=
  match members.filter fun member => member.1 == "kind" with
  | [(_, json)] => kind? root json
  | _ => none

/-- What stands where a condition may have a value. -/
inductive Argument
  | absent
  | literal (value : Literal)
  | body (filter : Filter)

/-- The members of a condition that are known so far. -/
structure ConditionParts where
  path : Option String
  operator : Option Operator
  argument : Option Argument
  negated : Option Bool

/-- The members of a group that are known so far. -/
structure GroupParts where
  combinator : Option Combinator
  negated : Option Bool
  children : Option (List Filter)

/-- The condition of a path, an operator and what stands where a value may. -/
def ofArgument (path : String) (operator : Operator) (argument : Argument) (negated : Bool) :
    Filter :=
  match argument with
  | .absent => .condition path operator none negated
  | .literal value => .condition path operator (some value) negated
  | .body filter => .nested path operator filter negated

/-- The condition of its members, of which the path and the operator have to be there. -/
def ConditionParts.node? (parts : ConditionParts) : Option Filter := do
  let path ← parts.path
  let operator ← parts.operator
  return ofArgument path operator (parts.argument.getD .absent) (parts.negated.getD false)

/-- The group of its members, of which the combinator has to be there. -/
def GroupParts.node? (parts : GroupParts) : Option Filter := do
  let combinator ← parts.combinator
  return .group combinator (parts.negated.getD false) (parts.children.getD [])

/-- The text of a string. -/
def textOf? : Json → Option String
  | .string text => some text
  | _ => none

/-- The truth value of a JSON value. -/
def truthOf? : Json → Option Bool
  | .boolean value => some value
  | _ => none

/-- The operator that a JSON value names. -/
def operatorOf? (json : Json) : Option Operator :=
  json.word?.bind Operator.ofName?

/-- The combinator that a JSON value names. -/
def combinatorOf? (json : Json) : Option Combinator :=
  json.word?.bind Combinator.ofName?

/-- The node of an object, once its kind is known, by the reading that goes with the kind. -/
def ofKind? (kind : Option NodeKind) (condition group : Unit → Option Filter) : Option Filter :=
  match kind with
  | some .condition => condition ()
  | some .group => group ()
  | none => none

mutual
/-- The filter of a JSON value: an object, or an array of the kind and the members in order. -/
def ofJson? (root : Bool) : Json → Option Filter
  | .object members =>
    ofKind? (kindOf? root members)
      (fun _ => (conditionMembers? ⟨none, none, none, none⟩ members).bind ConditionParts.node?)
      (fun _ => (groupMembers? ⟨none, none, none⟩ members).bind GroupParts.node?)
  | .array (kind :: items) =>
    ofKind? (kind? root kind) (fun _ => conditionItems? items) (fun _ => groupItems? items)
  | _ => none
/-- What a JSON value means where a condition may have a value: an object is always a filter. -/
def argument? : Json → Option Argument
  -- An array is always a list of literals, even if it could be read as a node.
  | .null => some .absent
  | .object members =>
    (ofKind? (kindOf? false members)
      (fun _ => (conditionMembers? ⟨none, none, none, none⟩ members).bind ConditionParts.node?)
      (fun _ => (groupMembers? ⟨none, none, none⟩ members).bind GroupParts.node?)).map .body
  | json => (Literal.ofJson? json).map .literal
/-- Takes the members of a condition in; other members are passed over. -/
def conditionMembers? (parts : ConditionParts) :
    List (String × Json) → Option ConditionParts
  | [] => some parts
  | (name, json) :: rest =>
    match name with
    | "path" => do
      let path ← fill? parts.path (textOf? json)
      conditionMembers? { parts with path } rest
    | "operator" => do
      let operator ← fill? parts.operator (operatorOf? json)
      conditionMembers? { parts with operator } rest
    | "value" => do
      let argument ← fill? parts.argument (argument? json)
      conditionMembers? { parts with argument } rest
    | "negated" => do
      let negated ← fill? parts.negated (truthOf? json)
      conditionMembers? { parts with negated } rest
    | _ => conditionMembers? parts rest
/-- Takes the members of a group in; other members are passed over. -/
def groupMembers? (parts : GroupParts) : List (String × Json) → Option GroupParts
  | [] => some parts
  | (name, json) :: rest =>
    match name with
    | "combinator" => do
      let combinator ← fill? parts.combinator (combinatorOf? json)
      groupMembers? { parts with combinator } rest
    | "negated" => do
      let negated ← fill? parts.negated (truthOf? json)
      groupMembers? { parts with negated } rest
    | "children" => do
      let children ← fill? parts.children (children? json)
      groupMembers? { parts with children } rest
    | _ => groupMembers? parts rest
/-- The condition of an array: path, operator, value and negation, of which the last may be missing. -/
def conditionItems? : List Json → Option Filter
  | [path, operator] => do
    return ofArgument (← textOf? path) (← operatorOf? operator) .absent false
  | [path, operator, value] => do
    return ofArgument (← textOf? path) (← operatorOf? operator) (← argument? value) false
  | [path, operator, value, negated] => do
    return ofArgument (← textOf? path) (← operatorOf? operator) (← argument? value)
      (← truthOf? negated)
  | _ => none
/-- The group of an array: combinator, negation and children, of which the last may be missing. -/
def groupItems? : List Json → Option Filter
  | [combinator] => do
    return .group (← combinatorOf? combinator) false []
  | [combinator, negated] => do
    return .group (← combinatorOf? combinator) (← truthOf? negated) []
  | [combinator, negated, children] => do
    return .group (← combinatorOf? combinator) (← truthOf? negated) (← children? children)
  | _ => none
/-- The children of a group, which stand in an array. -/
def children? : Json → Option (List Filter)
  | .array items => filters? items
  | _ => none
/-- The filters of several JSON values. -/
def filters? : List Json → Option (List Filter)
  | [] => some []
  | json :: rest => do
    let filter ← ofJson? false json
    let filters ← filters? rest
    return filter :: filters
end

mutual
/-- The JSON value of a filter; a condition without a value has no member for it. -/
def toJson : Filter → Json
  | .condition path operator value negated =>
    .object <| [("kind", .string "condition"), ("path", .string path),
      ("operator", .string operator.name)] ++
      (value.map fun literal => ("value", literal.toJson)).toList ++
      [("negated", .boolean negated)]
  | .nested path operator body negated =>
    .object [("kind", .string "condition"), ("path", .string path),
      ("operator", .string operator.name), ("value", body.toJson), ("negated", .boolean negated)]
  | .group combinator negated children =>
    .object [("kind", .string "group"), ("combinator", .string combinator.name),
      ("negated", .boolean negated), ("children", .array (childrenToJson children))]
/-- The JSON values of several filters. -/
def childrenToJson : List Filter → List Json
  | [] => []
  | child :: rest => child.toJson :: childrenToJson rest
end

/-- Reads a filter from JSON text. -/
def read? (text : String) : Option Filter :=
  (Json.read? text).bind (ofJson? true)

/-- The filters of several JSON values, each of which is read as a whole filter. -/
def allOfJson? : List Json → Option (List Filter)
  | [] => some []
  | json :: rest => do
    let filter ← ofJson? true json
    let filters ← allOfJson? rest
    return filter :: filters

/-- Reads filters from the JSON text of an array. -/
def readAll? (text : String) : Option (List Filter) :=
  match Json.read? text with
  | some (.array items) => allOfJson? items
  | _ => none

/-- A filter as JSON text. -/
def jsonText (filter : Filter) : String :=
  filter.toJson.text

end Filter

end RecordFilter
