import RecordFilter.Numeral.Digits
import RecordFilter.Text.Blank

/-! The parts of which dates and times of day are written. -/

namespace RecordFilter.Calendar

/-- What a part of a text stands for, and the text after it. -/
abbrev Scan (α : Type) : Type :=
  StateT (List Char) Option α

namespace Scan

/-- Some digits from the start of a text, between a least number of them and a greatest. -/
def digitsBetween (least most : Nat) : Scan (List Char) := fun chars =>
  let run := (chars.take most).takeWhile Numeral.isDigit
  if run.length < least then none else some (run, chars.drop run.length)

/-- A number in digits, between a least number of them and a greatest. -/
def number (least most : Nat) : Scan Nat := do
  return Numeral.ofDigits (← digitsBetween least most)

/-- A number in as many digits as follow. -/
def anyNumber : Scan Nat := do
  -- There cannot be more digits than characters.
  let chars ← get
  number 1 chars.length

/-- One of some characters. -/
def oneOf (allowed : List Char) : Scan Unit := fun chars =>
  match chars with
  | char :: rest => if allowed.contains char then some ((), rest) else none
  | [] => none

/-- White space of any length, none included. -/
def blanks : Scan Unit :=
  modify Text.dropBlank

/-- A number of at most some digits, before which white space may stand. -/
def padded (most : Nat) : Scan Nat := do
  blanks
  number 1 most

/-- A year: four digits at most, or any number of them after a sign. -/
def year : Scan Int := do
  blanks
  match ← get with
  | '-' :: rest => set rest; return -((← anyNumber) : Int)
  | '+' :: rest => set rest; return ((← anyNumber) : Int)
  | _ => return ((← number 1 4) : Int)

/-- Nanoseconds after a point, which may be left out; digits beyond the ninth are dropped. -/
def fraction : Scan Nat := do
  -- A point is followed by at least one digit.
  match ← get with
  | '.' :: rest =>
    set rest
    let run ← digitsBetween 1 9
    modify (List.dropWhile Numeral.isDigit)
    return Numeral.ofDigits run * Nat.pow 10 (9 - run.length)
  | _ => return 0

/-- Hours and minutes ahead of universal time, in seconds, after a sign. -/
def signedOffset (separator : Scan Unit) : Scan Int := do
  -- The sign for clocks behind universal time may also be the typographic minus.
  let behind ← match ← get with
    | '+' :: rest => set rest; pure false
    | '-' :: rest => set rest; pure true
    | '\u2212' :: rest => set rest; pure true
    | _ => failure
  let hours ← number 2 2
  separator
  let minutes ← number 2 2
  guard (minutes < 60)
  let seconds : Int := hours * 3600 + minutes * 60
  guard (seconds < 86400)
  return if behind then -seconds else seconds

/-- The whole text is accounted for. -/
def finish : Scan Unit := fun chars =>
  if chars.isEmpty then some ((), []) else none

/-- Runs a reading over a whole text. -/
def whole (scan : Scan α) (text : String) : Option α :=
  ((do let found ← scan; finish; return found).run text.toList).map Prod.fst

end Scan

end RecordFilter.Calendar
