import RecordFilter.Pattern.Regex

/-! What every match of a regular expression has in common: its least length, and the ends of the text. -/

namespace RecordFilter.Regex

/-- The number of bytes that encode the character of a code. -/
def byteCount (code : Nat) : Nat :=
  if code < 0x80 then 1 else if code < 0x800 then 2 else if code < 0x10000 then 3 else 4

mutual
/-- The fewest bytes that an expression takes, which is not known where a part holds of nothing. -/
def fewestBytes? : Regex → Option Nat
  | .empty => some 0
  | .text chars => some (chars.map fun char => byteCount char.toNat).sum
  | .oneOf set => set.head?.map fun range => byteCount range.1
  | .look _ => some 0
  | .repeated _ least _ body => body.fewestBytes?.map (least * ·)
  | .captured body => body.fewestBytes?
  | .inOrder parts => fewestInOrder? parts
  | .choice branches => fewestOfChoice? branches
/-- The fewest bytes that expressions take one after another. -/
def fewestInOrder? : List Regex → Option Nat
  | [] => some 0
  | part :: rest => do return (← part.fewestBytes?) + (← fewestInOrder? rest)
/-- The fewest bytes that a choice between expressions takes. -/
def fewestOfChoice? : List Regex → Option Nat
  | [] => none
  | [branch] => branch.fewestBytes?
  | branch :: rest => do return min (← branch.fewestBytes?) (← fewestOfChoice? rest)
end

mutual
/-- Every match of an expression has to satisfy a condition at its first place, or at its last one. -/
def demands (asked : Look) (atEnd : Bool) : Regex → Bool
  | .look found => found == asked
  | .repeated _ least _ body => 0 < least && body.demands asked atEnd
  | .captured body => body.demands asked atEnd
  | .inOrder parts => if atEnd then demandedLast asked parts else demandedFirst asked parts
  | .choice branches => demandedByAll asked atEnd branches
  | _ => false
/-- What comes first in a sequence has to satisfy a condition there. -/
def demandedFirst (asked : Look) : List Regex → Bool
  -- The parts after one that takes nothing may still hold at its place.
  | [] => false
  | part :: rest => part.demands asked false || (part.takesNothing && demandedFirst asked rest)
/-- What comes last in a sequence has to satisfy a condition there. -/
def demandedLast (asked : Look) : List Regex → Bool
  | [] => false
  | part :: rest => demandedLast asked rest || (allTakeNothing rest && part.demands asked true)
/-- Each of the expressions has to satisfy a condition. -/
def demandedByAll (asked : Look) (atEnd : Bool) : List Regex → Bool
  | [] => true
  | branch :: rest => branch.demands asked atEnd && demandedByAll asked atEnd rest
end

end RecordFilter.Regex
