import RecordFilter.Pattern.Automaton.Letters
import RecordFilter.Pattern.Automaton.Trie
import RecordFilter.Pattern.Bounds
import RecordFilter.Pattern.Plain

/-! How large the automata are that search for a regular expression forwards and backwards. -/

namespace RecordFilter

namespace Automaton

/-- The making of a part of an automaton after others, which fails if they grow beyond a limit. -/
abbrev Making (α : Type) : Type :=
  StateT Extent Option α

/-- Adds to an automaton, up to a limit of bytes. -/
def add (limit : Nat) (more : Extent) : Making Unit := do
  let made ← get
  guard ((made + more).size ≤ limit)
  set (made + more)

/-- Leads the end of a part on to another state, which takes a branch if the end is one of branches. -/
def lead (limit : Nat) (branching : Bool) : Making Unit :=
  if branching then add limit (.links 1) else pure ()

/-- Makes more copies of a part, each after the one before it; the result tells how the last one ends. -/
def copies (limit : Nat) (part : Making Bool) : Nat → Bool → Making Bool
  | 0, branching => pure branching
  | count + 1, branching => do
    let next ← part
    lead limit branching
    copies limit part count next

/-- Makes a part a number of times. -/
def exactly (limit : Nat) (part : Making Bool) : Nat → Making Bool
  | 0 => do
    add limit (.simple 1)
    return false
  | count + 1 => do copies limit part count (← part)

/-- Makes a part that may be passed over, a number of times, before a common end. -/
def optionally (limit : Nat) (part : Making Bool) : Nat → Bool → Making Bool
  | 0, branching => do
    lead limit branching
    return false
  | count + 1, branching => do
    add limit (.simple 1)
    let next ← part
    lead limit branching
    add limit (.links 2)
    optionally limit part count next

/-- Makes a part that may be repeated without end. -/
def endlessly (limit : Nat) (certain : Bool) (part : Making Bool) : Nat → Making Bool
  -- A part that may take nothing is made so that it is left after a round in vain.
  | 0 => do
    if certain then
      add limit (.simple 1)
      let branching ← part
      add limit (.links 1)
      lead limit branching
      return true
    else
      let branching ← part
      add limit (.simple 1)
      lead limit branching
      add limit ⟨2, 0, 4⟩
      return false
  | 1 => do
    let branching ← part
    add limit (.simple 1)
    lead limit branching
    add limit (.links 1)
    return true
  | count + 2 => do
    let before ← exactly limit part (count + 1)
    let branching ← part
    add limit (.simple 1)
    lead limit before
    lead limit branching
    add limit (.links 1)
    return true

/-- Makes a part between a least and a greatest number of times. -/
def repeatedly (limit : Nat) (certain : Bool) (part : Making Bool) (least : Nat) :
    Option Nat → Making Bool
  | none => endlessly limit certain part least
  | some most =>
    if least = most then exactly limit part least
    else if least = 0 ∧ most = 1 then do
      add limit (.simple 1)
      let branching ← part
      add limit ⟨1, 0, 2⟩
      lead limit branching
      return false
    else do
      let branching ← exactly limit part least
      add limit (.simple 1)
      optionally limit part (most - least) branching

end Automaton

namespace Regex

open Automaton

mutual
/-- Makes the states for an expression; the result tells whether they end in one that branches. -/
def make (limit : Nat) (backward : Bool) : Regex → Making Bool
  | .empty => do
    add limit (.simple 1)
    return false
  | .text chars => do
    add limit (.simple (chars.map fun char => byteCount char.toNat).sum)
    return false
  | .oneOf set => do
    add limit (letterExtent backward (← get).states set)
    return false
  | .look _ => do
    add limit (.simple 1)
    return false
  | .repeated _ least most body =>
    repeatedly limit (body.fewestBytes?.any (0 < ·)) (body.make limit backward) least most
  | .captured body =>
    -- What is captured is only kept on the way forwards.
    if backward then body.make limit backward
    else do
      add limit (.simple 1)
      let branching ← body.make limit backward
      add limit (.simple 1)
      lead limit branching
      return false
  | .inOrder parts =>
    if backward then do return (← makeBackward limit parts).getD false
    else do return (← makeForward limit parts none).getD false
  | .choice branches =>
    if branches.all isText then do
      let texts := branches.map fun
        | .text chars => chars.flatMap String.utf8EncodeChar
        | _ => []
      let trie := (texts.map fun text => if backward then text.reverse else text).foldl
        (fun trie text => trie.insert text) Trie.empty
      add limit (.simple 1 + trie.extent)
      return false
    else do
      makeChoice limit backward branches 0
      return false
/-- Makes expressions one after another, given how the one before them ends. -/
def makeForward (limit : Nat) : List Regex → Option Bool → Making (Option Bool)
  | [], before => pure before
  | part :: rest, before => do
    let branching ← part.make limit false
    lead limit (before.getD false)
    makeForward limit rest (some branching)
/-- Makes expressions one after another from the last one on. -/
def makeBackward (limit : Nat) : List Regex → Making (Option Bool)
  | [] => pure none
  | part :: rest => do
    let before ← makeBackward limit rest
    let branching ← part.make limit true
    lead limit (before.getD false)
    return some branching
/-- Makes the branches of a choice, given the number of those before them. -/
def makeChoice (limit : Nat) (backward : Bool) : List Regex → Nat → Making Unit
  -- The state that branches and the one behind all branches follow the second one.
  | [], _ => pure ()
  | branch :: rest, before => do
    let branching ← branch.make limit backward
    add limit (if before = 1 then ⟨2, 0, 1⟩ else .links 1)
    lead limit branching
    makeChoice limit backward rest (before + 1)
end

/-- Makes the automaton that searches for an expression in one direction. -/
def makeSearch (limit : Nat) (backward : Bool) (regex : Regex) : Making Unit := do
  -- A search that need not begin at an end of the text first passes over any bytes.
  let fixed := regex.demands (if backward then .textEnd else .textStart) backward
  add limit (if fixed then .simple 1 else ⟨3, 1, 1⟩)
  let branching ← (Regex.captured regex).make limit backward
  add limit (.simple 1)
  lead limit branching
  add limit (if fixed then .none else .links 1)

/-- The expression fits a limit of bytes, as an automaton in each direction unless it is plain. -/
def fits (limit : Nat) (regex : Regex) : Bool :=
  regex.isPlain ||
    ((regex.makeSearch limit false .none).isSome && (regex.makeSearch limit true .none).isSome)

end Regex

end RecordFilter
