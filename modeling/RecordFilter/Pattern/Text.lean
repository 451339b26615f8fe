import RecordFilter.Pattern.Bracket
import RecordFilter.Unicode.Word

/-! Reading a whole pattern: parts in sequence, branches between bars, and groups in parentheses. -/

namespace RecordFilter.Pattern

/-- The parts of a group so far: the branches that are complete, and the last one backwards. -/
structure Level where
  branches : List Expression
  parts : List Expression

namespace Level

/-- A group before its first part. -/
def start : Level :=
  ⟨[], []⟩

/-- Adds a part to the last branch. -/
def push (level : Level) (part : Expression) : Level :=
  { level with parts := part :: level.parts }

/-- The last branch. -/
def branch (level : Level) : Expression :=
  match level.parts with
  | [] => .empty
  | [part] => part
  | parts => .sequence parts.reverse

/-- Completes the last branch and begins another one. -/
def split (level : Level) : Level :=
  ⟨level.branches ++ [level.branch], []⟩

/-- All branches together. -/
def expression (level : Level) : Expression :=
  match level.branches with
  | [] => level.branch
  | branches => .choice (branches ++ [level.branch])

end Level

/-- A group that is still open: what surrounds it, its kind, and the treatment of blanks around it. -/
structure GroupFrame where
  outer : Level
  capturing : Bool
  changes : FlagChanges
  spaced : Bool

/-- What a parenthesis begins: a group, or changes to what follows in the same group. -/
inductive Opening
  | group (capturing : Bool) (changes : FlagChanges)
  | changes (changes : FlagChanges)

/-- The flag of a letter. -/
def flag? : Char → Option Flag
  | 'i' => some .ignoreCase
  | 'm' => some .manyLines
  | 's' => some .dotAll
  | 'U' => some .swapGreed
  | 'u' => some .unicode
  | 'R' => some .carriageReturns
  | 'x' => some .spaced
  | _ => none

/-- The changes of flag letters, those after the hyphen being turned off; nothing occurs twice. -/
def flagChanges? : Bool → FlagChanges → List Char → Option FlagChanges
  -- A hyphen has to be followed by a flag.
  | _, changes, [] => some changes
  | turnedOn, changes, '-' :: rest =>
    if turnedOn && !rest.isEmpty then flagChanges? false changes rest else none
  | turnedOn, changes, letter :: rest => do
    let flag ← flag? letter
    guard ((changes.lookup flag).isNone)
    flagChanges? turnedOn (changes ++ [(flag, turnedOn)]) rest

/-- The character may stand in the name of a group, the first one being more restricted. -/
def namesGroup (first : Bool) (char : Char) : Bool :=
  if first then char == '_' || Unicode.isAlphabetic char
  else char == '_' || char == '.' || char == '[' || char == ']' || Unicode.isAlphanumeric char

namespace Scan

/-- The name of a group, which no other group has, and the bracket after it. -/
def groupName : Scan Unit := do
  let state ← get
  let name := state.rest.takeWhile (· != '>')
  match name with
  | [] => failure
  | first :: others =>
    let text := String.ofList name
    guard (namesGroup true first ∧ others.all (namesGroup false) ∧ ¬ state.names.contains text)
    set { state with rest := state.rest.drop name.length, names := text :: state.names }
    guard ((← current) = '>')
    advance 1

/-- Flags up to the colon or parenthesis that ends them. -/
def flags : Scan Opening := do
  -- Flags for what follows are at least one; before a colon there may be none.
  let state ← get
  let letters := state.rest.takeWhile fun char => char != ':' && char != ')'
  let changes ← flagChanges? true [] letters
  advance letters.length
  let last ← current
  advance 1
  if last = ')' then
    guard (changes ≠ [])
    return .changes changes
  else return .group false changes

/-- The start of a group. -/
def opening : Scan Opening := do
  -- Groups that look around a place without taking characters are not supported.
  advanceSkipping
  let around ← ["?=", "?!", "?<=", "?<!"].anyM fun start => do
    return start.toList.isPrefixOf (← get).rest
  guard (!around)
  if (← accept "?P<") || (← accept "?<") then
    groupName
    return .group true []
  else if ← accept "?" then flags
  else return .group true []

/-- Adds repetitions to the last part, which has to be something that can be repeated. -/
def repeated (level : Level) (least : Nat) (most : Option Nat) : Scan Level := do
  -- A question mark after them asks for few rather than many.
  match level.parts with
  | [] => failure
  | .flags _ :: _ => failure
  | part :: before =>
    let few ← accept "?"
    return { level with parts := .repeated part (!few) least most :: before }

/-- A number of repetitions in braces: exactly one number, a least one, or two bounds in order. -/
def bounds : Scan (Nat × Option Nat) := do
  advanceSkipping
  let least ← count
  let bounds : Nat × Option Nat ←
    if (← current) = ',' then do
      advanceSkipping
      if (← current) = '}' then pure (least, none)
      else
        let most ← count
        guard (least ≤ most)
        pure (least, some most)
    else pure (least, some least)
  guard ((← current) = '}')
  advanceSkipping
  return bounds

/-- The setting that changes make of the treatment of blanks. -/
def changeSpaced (changes : FlagChanges) : Scan Unit :=
  modify fun state => { state with spaced := (changes.lookup .spaced).getD state.spaced }

/-- A part that is no group and no repetition. -/
def simplePart : Char → Scan Expression
  | '[' => bracket
  | '\\' => escape
  | '.' => do advance 1; return .dot
  | '^' => do advance 1; return .anchor .lineStart
  | '$' => do advance 1; return .anchor .lineEnd
  | char => do advance 1; return .letter ⟨char, false⟩

/-- The rest of a pattern after the parts so far, within the groups that are still open. -/
def expressionFrom : Nat → List GroupFrame → Level → Scan Expression
  -- Each round takes at least one character, so there are no more rounds than characters.
  | 0, _, _ => failure
  | fuel + 1, frames, level => do
    skip
    match (← get).rest with
    | [] =>
      guard frames.isEmpty
      return level.expression
    | '(' :: _ =>
      let spaced := (← get).spaced
      match ← opening with
      | .changes changes =>
        changeSpaced changes
        expressionFrom fuel frames (level.push (.flags changes))
      | .group capturing changes =>
        changeSpaced changes
        expressionFrom fuel (⟨level, capturing, changes, spaced⟩ :: frames) .start
    | ')' :: _ =>
      match frames with
      | [] => failure
      | frame :: outer =>
        modify fun state => { state with spaced := frame.spaced }
        advance 1
        expressionFrom fuel outer
          (frame.outer.push (.group frame.capturing frame.changes level.expression))
    | '|' :: _ =>
      advance 1
      expressionFrom fuel frames level.split
    | '?' :: _ =>
      advance 1
      expressionFrom fuel frames (← repeated level 0 (some 1))
    | '*' :: _ =>
      advance 1
      expressionFrom fuel frames (← repeated level 0 none)
    | '+' :: _ =>
      advance 1
      expressionFrom fuel frames (← repeated level 1 none)
    | '{' :: _ =>
      let (least, most) ← bounds
      expressionFrom fuel frames (← repeated level least most)
    | char :: _ =>
      let part ← simplePart char
      expressionFrom fuel frames (level.push part)

end Scan

/-- How deep the parts of a pattern may nest. -/
def depthLimit : Nat :=
  250

/-- Reads a pattern. -/
def Expression.read? (text : String) : Option Expression := do
  let chars := text.toList
  let (expression, _) ← (Scan.expressionFrom (chars.length + 1) [] .start).run ⟨chars, false, []⟩
  guard (expression.depth ≤ depthLimit)
  return expression

end RecordFilter.Pattern
