import RecordFilter.Pattern.Expression
import RecordFilter.Pattern.Scan
import RecordFilter.Text.Search

/-! Escapes: what a backslash and the characters after it stand for. -/

namespace RecordFilter.Pattern

/-- The character of a code, which surrogates are not. -/
def charOf? (code : Nat) : Option Char :=
  if code < 0xD800 ∨ (0xDFFF < code ∧ code ≤ 0x10FFFF) then some (Char.ofNat code) else none

namespace Scan

/-- A character given by its code: some hexadecimal digits, or any number of them in braces. -/
def coded (size : Nat) : Scan Letter := do
  -- Only the shortest form without braces gives a byte.
  advanceSkipping
  if (← current) = '{' then
    advanceSkipping
    let digits ← collect (· != '}')
    let _ ← current
    advanceSkipping
    guard (digits ≠ [])
    let char ← (Numeral.ofHexDigits? digits).bind charOf?
    return ⟨char, false⟩
  else
    let digits ← hexDigits size
    let char ← (Numeral.ofHexDigits? digits).bind charOf?
    return ⟨char, size == 2⟩

/-- The parts of a property name: those around an unequal sign, a colon or an equal sign, in this order. -/
def propertyName (chars : List Char) : PropertyName :=
  match Text.cut? ['!', '='] chars, Text.cut? [':'] chars, Text.cut? ['='] chars with
  | some (name, value), _, _ => .unlike (String.ofList name) (String.ofList value)
  | none, some (name, value), _ => .valued (String.ofList name) (String.ofList value)
  | none, none, some (name, value) => .valued (String.ofList name) (String.ofList value)
  | none, none, none => .single (String.ofList chars)

/-- A property: one letter, or a name in braces. -/
def property : Scan PropertyName := do
  advanceSkipping
  let char ← current
  if char = '{' then
    advanceSkipping
    let chars ← collect (· != '}')
    let _ ← current
    advance 1
    return propertyName chars
  else
    guard (char ≠ '\\')
    advanceSkipping
    return .single (String.singleton char)

/-- The boundary of a name in braces. -/
def boundaryOf? : String → Option Anchor
  | "start" => some .start
  | "end" => some .stop
  | "start-half" => some .startHalf
  | "end-half" => some .stopHalf
  | _ => none

/-- A boundary of words, after which a name in braces may tell which one. -/
def boundary : Scan Anchor := do
  -- Braces that cannot hold a name are left to be a number of repetitions.
  let start ← get
  if start.rest.head? = some '{' then
    advanceSkipping
    let inName (char : Char) : Bool := char.isAlpha || char == '-'
    if inName (← current) then
      let name ← collect inName
      guard ((← current) = '}')
      advance 1
      boundaryOf? (String.ofList name)
    else
      set start
      return .boundary
  else return .boundary

/-- An escaped character that stands for itself. -/
def standsForItself (char : Char) : Bool :=
  -- Letters and digits have meanings of their own or none, and the angle brackets are boundaries.
  char.toNat < 0x80 && !char.isAlphanum && char != '<' && char != '>'

/-- The control character that a letter stands for. -/
def control? : Char → Option Char
  | 'a' => some '\x07'
  | 'f' => some '\x0c'
  | 't' => some '\t'
  | 'n' => some '\n'
  | 'r' => some '\r'
  | 'v' => some '\x0b'
  | _ => none

/-- The place that an escaped character asks for. -/
def anchor? : Char → Option Anchor
  | 'A' => some .textStart
  | 'z' => some .textEnd
  | 'B' => some .inside
  | '<' => some .start
  | '>' => some .stop
  | _ => none

/-- The class of characters that an escaped letter stands for; a capital one negates it. -/
def shorthand? : Char → Option Expression
  | 'd' => some (.shorthand .digit false)
  | 'D' => some (.shorthand .digit true)
  | 's' => some (.shorthand .blank false)
  | 'S' => some (.shorthand .blank true)
  | 'w' => some (.shorthand .word false)
  | 'W' => some (.shorthand .word true)
  | _ => none

/-- What an escaped letter stands for that nothing else belongs to. -/
def lettered? (char : Char) : Option Expression :=
  ((control? char).map fun control => .letter ⟨control, false⟩) <|> shorthand? char <|>
    (anchor? char).map .anchor

/-- An escape. -/
def escape : Scan Expression := do
  -- References to captured parts do not exist, so no digit may follow.
  advance 1
  let char ← current
  match char with
  | 'x' => return .letter (← coded 2)
  | 'u' => return .letter (← coded 4)
  | 'U' => return .letter (← coded 8)
  | 'p' => return .property (← property) false
  | 'P' => return .property (← property) true
  | _ =>
    advance 1
    if standsForItself char then return .letter ⟨char, false⟩
    else if char = 'b' then return .anchor (← boundary)
    else
      let meant ← lettered? char
      return meant

end Scan

end RecordFilter.Pattern
