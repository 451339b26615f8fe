import RecordFilter.Unicode.CodeSet

/-! Patterns as they are written, before flags give their parts a meaning. -/

namespace RecordFilter.Pattern

/-- A switch that changes the meaning of what follows it. -/
inductive Flag
  | ignoreCase
  | manyLines
  | dotAll
  | swapGreed
  | unicode
  | carriageReturns
  | spaced
  deriving DecidableEq, Repr

/-- Switches that are turned on or off. -/
abbrev FlagChanges : Type :=
  List (Flag × Bool)

/-- A character as it is written; one given as a byte stands for itself only where text is Unicode. -/
structure Letter where
  char : Char
  byte : Bool
  deriving DecidableEq, Repr

/-- A class of characters with an escape of its own. -/
inductive Shorthand
  | digit
  | blank
  | word
  deriving DecidableEq, Repr

/-- How a Unicode property is named: alone, by a value of it, or by a value that is excluded. -/
inductive PropertyName
  | single (name : String)
  | valued (property value : String)
  | unlike (property value : String)
  deriving DecidableEq, Repr

/-- An operation on two classes of characters. -/
inductive SetOperation
  | intersection
  | difference
  | symmetricDifference
  deriving DecidableEq, Repr

mutual
/-- A part of a class in brackets. -/
inductive ClassItem
  | range (first last : Letter)
  | shorthand (kind : Shorthand) (negated : Bool)
  | property (name : PropertyName) (negated : Bool)
  | ascii (set : Unicode.CodeSet) (negated : Bool)
  | nested (negated : Bool) (body : ClassBody)
/-- What stands in brackets: parts side by side, or an operation on two bodies. -/
inductive ClassBody
  | items (items : List ClassItem)
  | combined (operation : SetOperation) (left right : ClassBody)
end

/-- A place that a pattern asks for. -/
inductive Anchor
  | lineStart
  | lineEnd
  | textStart
  | textEnd
  | boundary
  | inside
  | start
  | stop
  | startHalf
  | stopHalf
  deriving DecidableEq, Repr

/-- A pattern or a part of one. -/
inductive Expression
  | empty
  | flags (changes : FlagChanges)
  | letter (written : Letter)
  | dot
  | anchor (kind : Anchor)
  | shorthand (kind : Shorthand) (negated : Bool)
  | property (name : PropertyName) (negated : Bool)
  | bracket (negated : Bool) (body : ClassBody)
  | repeated (body : Expression) (greedy : Bool) (least : Nat) (most : Option Nat)
  | group (capturing : Bool) (changes : FlagChanges) (body : Expression)
  | sequence (parts : List Expression)
  | choice (branches : List Expression)

mutual
/-- How deep classes nest in a part of a class. -/
def ClassItem.depth : ClassItem → Nat
  | .nested _ body => body.depth + 1
  | _ => 0
/-- How deep classes nest in what stands in brackets; several parts side by side are a level. -/
def ClassBody.depth : ClassBody → Nat
  | .items [] => 0
  | .items [item] => item.depth
  | .items (first :: second :: rest) => max first.depth (max second.depth (itemsDepth rest)) + 1
  | .combined _ left right => max left.depth right.depth + 1
/-- How deep classes nest in several parts. -/
def itemsDepth : List ClassItem → Nat
  | [] => 0
  | item :: rest => max item.depth (itemsDepth rest)
end

mutual
/-- How deep the parts of a pattern nest. -/
def Expression.depth : Expression → Nat
  | .bracket _ body => body.depth + 1
  | .repeated body _ _ _ => body.depth + 1
  | .group _ _ body => body.depth + 1
  | .sequence parts => expressionsDepth parts + 1
  | .choice branches => expressionsDepth branches + 1
  | _ => 0
/-- How deep the parts of several patterns nest. -/
def expressionsDepth : List Expression → Nat
  | [] => 0
  | expression :: rest => max expression.depth (expressionsDepth rest)
end

end RecordFilter.Pattern
