import RecordFilter.Pattern.Expression
import RecordFilter.Pattern.Regex
import RecordFilter.Unicode.Folding
import RecordFilter.Unicode.Property

/-! What written patterns mean: flags are applied, and classes become sets of characters. -/

namespace RecordFilter.Pattern

open Unicode (CodeSet)

/-- The flags in force at a place of a pattern, those without effect on the meaning left out. -/
structure Flags where
  ignoreCase : Bool
  manyLines : Bool
  dotAll : Bool
  unicode : Bool
  carriageReturns : Bool
  swapGreed : Bool
  deriving DecidableEq, Repr

namespace Flags

/-- The flags at the start of a pattern. -/
def start : Flags :=
  ⟨false, false, false, true, false, false⟩

/-- The flags after one of them is turned on or off. -/
def change (flags : Flags) : Flag × Bool → Flags
  | (.ignoreCase, on) => { flags with ignoreCase := on }
  | (.manyLines, on) => { flags with manyLines := on }
  | (.dotAll, on) => { flags with dotAll := on }
  | (.unicode, on) => { flags with unicode := on }
  | (.carriageReturns, on) => { flags with carriageReturns := on }
  | (.swapGreed, on) => { flags with swapGreed := on }
  | (.spaced, _) => flags

/-- The flags after several changes. -/
def changeAll (flags : Flags) (changes : FlagChanges) : Flags :=
  changes.foldl change flags

end Flags

/-- Adds the other case of every ASCII letter in a set. -/
def asciiClosure (set : CodeSet) : CodeSet :=
  let small := CodeSet.intersection set [(0x61, 0x7A)]
  let capital := CodeSet.intersection set [(0x41, 0x5A)]
  CodeSet.union set
    (CodeSet.union (small.map fun (first, last) => (first - 0x20, last - 0x20))
      (capital.map fun (first, last) => (first + 0x20, last + 0x20)))

/-- A set with the letters that differ from its own in case only, if case is to be ignored. -/
def folded (flags : Flags) (set : CodeSet) : CodeSet :=
  if flags.ignoreCase then
    if flags.unicode then Unicode.Folding.closure set else asciiClosure set
  else set

/-- The set contains ASCII characters only. -/
def isAscii (set : CodeSet) : Bool :=
  set.all fun (_, last) => last < 0x80

/-- A set or what it lacks; without Unicode no more than ASCII characters may be left. -/
def negatedSet? (flags : Flags) (negated : Bool) (set : CodeSet) : Option CodeSet :=
  -- Lacking a single ASCII character would admit bytes that are no text.
  let set := if negated then CodeSet.complement Unicode.lastCode set else set
  if flags.unicode || isAscii set then some set else none

/-- The characters of a shorthand, or those it lacks. -/
def shorthandSet? (flags : Flags) (kind : Shorthand) (negated : Bool) : Option CodeSet :=
  negatedSet? flags negated <|
    if flags.unicode then
      match kind with
      | .digit => Unicode.Category.plain "nd"
      | .blank => Unicode.blankSet
      | .word => Unicode.wordSet
    else
      match kind with
      | .digit => [(0x30, 0x39)]
      | .blank => [(0x09, 0x0D), (0x20, 0x20)]
      | .word => [(0x30, 0x39), (0x41, 0x5A), (0x5F, 0x5F), (0x61, 0x7A)]

/-- The characters that a property name stands for, and whether it is they that are excluded. -/
def PropertyName.set? : PropertyName → Option (CodeSet × Bool)
  | .single name => (Unicode.Property.single? name).map fun set => (set, false)
  | .valued property value => (Unicode.Property.valued? property value).map fun set => (set, false)
  | .unlike property value => (Unicode.Property.valued? property value).map fun set => (set, true)

/-- The characters of a property, or those it lacks; without Unicode there are no properties. -/
def propertySet? (flags : Flags) (name : PropertyName) (negated : Bool) : Option CodeSet := do
  -- Lacking what a name excludes is having it.
  guard flags.unicode
  let (set, excluded) ← name.set?
  negatedSet? flags (negated != excluded) (folded flags set)

/-- The code of a letter inside a class, where only ASCII letters may stand without Unicode. -/
def classCode? (flags : Flags) (letter : Letter) : Option Nat :=
  if flags.unicode || letter.char.toNat < 0x80 then some letter.char.toNat else none

/-- What an operation makes of two sets. -/
def SetOperation.apply : SetOperation → CodeSet → CodeSet → CodeSet
  | .intersection, left, right => CodeSet.intersection left right
  | .difference, left, right => CodeSet.difference left right
  | .symmetricDifference, left, right => CodeSet.symmetricDifference left right

mutual
/-- The characters of a part of a class. -/
def ClassItem.set? (flags : Flags) : ClassItem → Option CodeSet
  | .range first last => do return [(← classCode? flags first, ← classCode? flags last)]
  | .shorthand kind negated => shorthandSet? flags kind negated
  | .property name negated => propertySet? flags name negated
  | .ascii set negated => negatedSet? flags negated (folded flags set)
  | .nested negated body => do negatedSet? flags negated (folded flags (← body.set? flags))
/-- The characters of what stands in brackets; case is ignored before an operation is applied. -/
def ClassBody.set? (flags : Flags) : ClassBody → Option CodeSet
  | .items items => itemsSet? flags items
  | .combined operation left right => do
    return operation.apply (folded flags (← left.set? flags)) (folded flags (← right.set? flags))
/-- The characters of several parts of a class. -/
def itemsSet? (flags : Flags) : List ClassItem → Option CodeSet
  | [] => some []
  | item :: rest => do return CodeSet.union (← item.set? flags) (← itemsSet? flags rest)
end

/-- What a letter holds of; a byte that is no character of its own has no meaning without Unicode. -/
def letterMeaning? (flags : Flags) (letter : Letter) : Option Regex :=
  -- Letters beyond ASCII have no other case without Unicode.
  let code := letter.char.toNat
  let set : CodeSet := [(code, code)]
  if flags.unicode || code < 0x80 then some (Regex.ofSet (folded flags set))
  else if letter.byte then none
  else some (Regex.ofSet set)

/-- What a point holds of: every character, or all but those that end lines. -/
def dotMeaning? (flags : Flags) : Option Regex :=
  if !flags.unicode then none
  else if flags.dotAll then some (Regex.ofSet [(0, Unicode.lastCode)])
  else if flags.carriageReturns then
    some (Regex.ofSet (CodeSet.complement Unicode.lastCode [(0x0A, 0x0A), (0x0D, 0x0D)]))
  else some (Regex.ofSet (CodeSet.complement Unicode.lastCode [(0x0A, 0x0A)]))

/-- What is asked about a place; lines matter only with the flag for them. -/
def anchorMeaning (flags : Flags) : Anchor → Look
  | .lineStart => if flags.manyLines then .lineStart flags.carriageReturns else .textStart
  | .lineEnd => if flags.manyLines then .lineEnd flags.carriageReturns else .textEnd
  | .textStart => .textStart
  | .textEnd => .textEnd
  | .boundary => .word .boundary flags.unicode
  | .inside => .word .inside flags.unicode
  | .start => .word .start flags.unicode
  | .stop => .word .stop flags.unicode
  | .startHalf => .word .startHalf flags.unicode
  | .stopHalf => .word .stopHalf flags.unicode

mutual
/-- The meaning of an expression under flags, and the flags in force after it. -/
def Expression.meaning? (flags : Flags) : Expression → Option (Regex × Flags)
  -- Changes of flags last until the end of the group around them, across its branches.
  | .empty => some (.empty, flags)
  | .flags changes => some (.empty, flags.changeAll changes)
  | .letter written => (letterMeaning? flags written).map fun regex => (regex, flags)
  | .dot => (dotMeaning? flags).map fun regex => (regex, flags)
  | .anchor kind => some (.look (anchorMeaning flags kind), flags)
  | .shorthand kind negated =>
    (shorthandSet? flags kind negated).map fun set => (Regex.ofSet set, flags)
  | .property name negated =>
    (propertySet? flags name negated).map fun set => (Regex.ofSet set, flags)
  | .bracket negated body => do
    let set ← negatedSet? flags negated (folded flags (← body.set? flags))
    return (Regex.ofSet set, flags)
  | .repeated body greedy least most => do
    let (regex, after) ← body.meaning? flags
    return (Regex.repeating (greedy != after.swapGreed) least most regex, after)
  | .group capturing changes body => do
    let (regex, _) ← body.meaning? (flags.changeAll changes)
    return (if capturing then .captured regex else regex, flags)
  | .sequence parts => do
    let (regexes, after) ← meanings? flags parts
    return (Regex.sequence regexes, after)
  | .choice branches => do
    let (regexes, after) ← meanings? flags branches
    return (Regex.either regexes, after)
/-- The meanings of several expressions, each under the flags in force after the one before it. -/
def meanings? (flags : Flags) : List Expression → Option (List Regex × Flags)
  | [] => some ([], flags)
  | part :: rest => do
    let (regex, between) ← part.meaning? flags
    let (regexes, after) ← meanings? between rest
    return (regex :: regexes, after)
end

/-- The regular expression that an expression stands for. -/
def Expression.regex? (expression : Expression) : Option Regex :=
  (expression.meaning? .start).map Prod.fst

end RecordFilter.Pattern
