import RecordFilter.Pattern.Look

/-! Regular expressions over characters, built so that no part of them is superfluous. -/

namespace RecordFilter

open Unicode (CodeSet)

/-- A regular expression; greed and captured parts do not matter for whether it holds of a text. -/
inductive Regex
  | empty
  | text (chars : List Char)
  | oneOf (set : CodeSet)
  | look (asked : Look)
  | repeated (greedy : Bool) (least : Nat) (most : Option Nat) (body : Regex)
  | captured (body : Regex)
  | inOrder (parts : List Regex)
  | choice (branches : List Regex)
  deriving Repr

namespace Regex

mutual
/-- The expression takes no character, wherever it holds. -/
def takesNothing : Regex → Bool
  | .empty => true
  | .text chars => chars.isEmpty
  | .oneOf _ => false
  | .look _ => true
  | .repeated _ _ most body => most.isSome && body.takesNothing
  | .captured body => body.takesNothing
  | .inOrder parts => allTakeNothing parts
  | .choice branches => allTakeNothing branches
/-- Each of the expressions takes no character. -/
def allTakeNothing : List Regex → Bool
  | [] => true
  | part :: rest => part.takesNothing && allTakeNothing rest
end

mutual
/-- The two expressions are the same; captured parts are always told apart. -/
def alike : Regex → Regex → Bool
  | .empty, .empty => true
  | .text chars, .text others => chars == others
  | .oneOf set, .oneOf other => set == other
  | .look asked, .look other => asked == other
  | .repeated greedy least most body, .repeated greedyToo leastToo mostToo other =>
    greedy == greedyToo && least == leastToo && most == mostToo && body.alike other
  | .inOrder parts, .inOrder others => allAlike parts others
  | .choice branches, .choice others => allAlike branches others
  | _, _ => false
/-- The expressions are the same one by one. -/
def allAlike : List Regex → List Regex → Bool
  | [], [] => true
  | part :: rest, other :: others => part.alike other && allAlike rest others
  | _, _ => false
end

/-- The expression that holds of one character of a set. -/
def ofSet (set : CodeSet) : Regex :=
  -- A set of a single character is a text of this character.
  match set.scalars with
  | [(first, last)] => if first = last then .text [Char.ofNat first] else .oneOf [(first, last)]
  | ranges => .oneOf ranges

/-- An expression repeated from a least to a greatest number of times. -/
def repeating (greedy : Bool) (least : Nat) (most : Option Nat) (body : Regex) : Regex :=
  -- What takes no character holds as often as wanted once it holds.
  let bounds : Nat × Option Nat :=
    if body.takesNothing then (min least 1, some (min (most.getD 1) 1)) else (least, most)
  if bounds.2 = some 0 then .empty
  else if bounds = (1, some 1) then body
  else .repeated greedy bounds.1 bounds.2 body

/-- The expressions that a sequence consists of. -/
def parts : Regex → List Regex
  | .inOrder parts => parts
  | part => [part]

/-- The expressions that a choice consists of. -/
def branches : Regex → List Regex
  | .choice branches => branches
  | branch => [branch]

/-- Joins neighbouring texts and leaves out empty expressions. -/
def joined : List Regex → List Regex
  | [] => []
  | .empty :: rest => joined rest
  | .text chars :: rest =>
    match joined rest with
    | .text more :: others => .text (chars ++ more) :: others
    | others => .text chars :: others
  | part :: rest => part :: joined rest

/-- Expressions one after another. -/
def sequence (subs : List Regex) : Regex :=
  match joined (subs.flatMap parts) with
  | [] => .empty
  | [part] => part
  | several => .inOrder several

/-- The set of the characters that an expression is a choice of, where it is a text of one. -/
def singleton? : Regex → Option CodeSet
  | .text [char] => some [(char.toNat, char.toNat)]
  | _ => none

/-- The set of the characters that an expression is a choice of, where it is written as a set. -/
def set? : Regex → Option CodeSet
  | .oneOf set => some set
  | _ => none

/-- The first expressions of both sequences as far as they are alike. -/
def shared : List Regex → List Regex → List Regex
  | part :: rest, other :: others => if part.alike other then part :: shared rest others else []
  | _, _ => []

/-- A choice between expressions, none of which is a choice itself. -/
def choiceOf (branches : List Regex) : Regex :=
  -- A choice of single characters, or of sets of them, is itself a set.
  match branches with
  | [] => .oneOf []
  | [branch] => branch
  | several =>
    match several.mapM singleton?, several.mapM set? with
    | some singletons, _ => ofSet (CodeSet.ofRanges singletons.flatten)
    | none, some sets => ofSet (CodeSet.ofRanges sets.flatten)
    | none, none => .choice several

/-- The parts that all branches begin with, if these are sequences of several parts. -/
def sharedStart (branches : List Regex) : List Regex :=
  let start : Option (List Regex) := do
    let sequences ← branches.mapM fun
      | .inOrder parts => some parts
      | _ => none
    match sequences with
    | first :: others => return others.foldl shared first
    | [] => none
  start.getD []

/-- A choice between expressions; what all branches begin with is put in front of it. -/
def either (subs : List Regex) : Regex :=
  let several := subs.flatMap branches
  match choiceOf several with
  | .choice several =>
    match sharedStart several with
    | [] => .choice several
    | start =>
      let rests := several.map fun branch => sequence (branch.parts.drop start.length)
      sequence (start ++ [choiceOf (rests.flatMap branches)])
  | simple => simple

end Regex

end RecordFilter
