import RecordFilter.Numeral.Digits
import RecordFilter.Text.Blank

/-! Reading a pattern character by character; blanks and comments may be without meaning in it. -/

namespace RecordFilter.Pattern

/-- The rest of a pattern, whether blanks in it are passed over, and the names given so far. -/
structure ScanState where
  rest : List Char
  spaced : Bool
  names : List String

/-- What a part of a pattern stands for, unless it is senseless. -/
abbrev Scan (α : Type) : Type :=
  StateT ScanState Option α

namespace Scan

/-- Takes accepted characters; between them blanks and comments are passed over where they mean nothing. -/
def collected (spaced : Bool) (accepted : Char → Bool) : Bool → List Char → List Char × List Char
  -- A comment reaches to the end of its line.
  | _, [] => ([], [])
  | true, char :: rest => collected spaced accepted (char != '\n') rest
  | false, char :: rest =>
    if spaced && Text.isBlank char then collected spaced accepted false rest
    else if spaced && char == '#' then collected spaced accepted true rest
    else if accepted char then
      let (chars, after) := collected spaced accepted false rest
      (char :: chars, after)
    else ([], char :: rest)

/-- Takes characters as long as they are accepted. -/
def collect (accepted : Char → Bool) : Scan (List Char) := do
  let state ← get
  let (chars, rest) := collected state.spaced accepted false state.rest
  set { state with rest }
  return chars

/-- Passes over blanks and comments where they mean nothing. -/
def skip : Scan Unit := do
  let _ ← collect fun _ => false

/-- The next character, which has to be there. -/
def current : Scan Char := do
  match (← get).rest with
  | char :: _ => return char
  | [] => failure

/-- Moves past a number of characters. -/
def advance (count : Nat) : Scan Unit :=
  modify fun state => { state with rest := state.rest.drop count }

/-- Moves past a character and what means nothing after it. -/
def advanceSkipping : Scan Unit := do
  advance 1
  skip

/-- The rest of the pattern begins with a text, which is passed over. -/
def accept (text : String) : Scan Bool := do
  let state ← get
  if text.toList.isPrefixOf state.rest then
    advance text.length
    return true
  else return false

/-- Passes over white space whether it means anything or not. -/
def blanks : Scan Unit :=
  modify fun state => { state with rest := Text.dropBlank state.rest }

/-- A number of repetitions, with white space around it. -/
def count : Scan Nat := do
  blanks
  let digits ← collect Numeral.isDigit
  blanks
  skip
  guard (digits ≠ [] ∧ Numeral.ofDigits digits < UInt32.size)
  return Numeral.ofDigits digits

/-- Some hexadecimal digits. -/
def hexDigits : Nat → Scan (List Char)
  | 0 => return []
  | number + 1 => do
    let char ← current
    guard (Numeral.hexDigit? char).isSome
    advanceSkipping
    return char :: (← hexDigits number)

end Scan

end RecordFilter.Pattern
