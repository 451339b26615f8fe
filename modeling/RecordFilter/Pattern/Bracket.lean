import RecordFilter.Pattern.Escape

/-! Classes of characters in brackets. -/

namespace RecordFilter.Pattern

/-- The named classes of ASCII characters. -/
def asciiClass? : String → Option Unicode.CodeSet
  | "alnum" => some [(0x30, 0x39), (0x41, 0x5A), (0x61, 0x7A)]
  | "alpha" => some [(0x41, 0x5A), (0x61, 0x7A)]
  | "ascii" => some [(0x00, 0x7F)]
  | "blank" => some [(0x09, 0x09), (0x20, 0x20)]
  | "cntrl" => some [(0x00, 0x1F), (0x7F, 0x7F)]
  | "digit" => some [(0x30, 0x39)]
  | "graph" => some [(0x21, 0x7E)]
  | "lower" => some [(0x61, 0x7A)]
  | "print" => some [(0x20, 0x7E)]
  | "punct" => some [(0x21, 0x2F), (0x3A, 0x40), (0x5B, 0x60), (0x7B, 0x7E)]
  | "space" => some [(0x09, 0x0D), (0x20, 0x20)]
  | "upper" => some [(0x41, 0x5A)]
  | "word" => some [(0x30, 0x39), (0x41, 0x5A), (0x5F, 0x5F), (0x61, 0x7A)]
  | "xdigit" => some [(0x30, 0x39), (0x41, 0x46), (0x61, 0x66)]
  | _ => none

/-- What encloses the parts of a class that are being read. -/
inductive ClassFrame
  | opened (before : List ClassItem) (negated : Bool)
  | operation (kind : SetOperation) (left : ClassBody)

/-- The body of a class, with the operation whose right side it is. -/
def closeOperation (frames : List ClassFrame) (body : ClassBody) : List ClassFrame × ClassBody :=
  -- Operations are applied from left to right.
  match frames with
  | .operation kind left :: outer => (outer, .combined kind left body)
  | _ => (frames, body)

namespace Scan

/-- Hyphens at the start of a class, which stand for themselves; the text cannot end among them. -/
def hyphens : Nat → Scan (List ClassItem)
  | 0 => failure
  | fuel + 1 => do
    if (← current) = '-' then
      advanceSkipping
      return .range ⟨'-', false⟩ ⟨'-', false⟩ :: (← hyphens fuel)
    else return []

/-- The start of a class: whether it is negated, and the parts that stand for themselves only there. -/
def openBracket : Scan (Bool × List ClassItem) := do
  -- A closing bracket that comes first is a part, since a class cannot be empty.
  advanceSkipping
  let negated := (← current) = '^'
  if negated then advanceSkipping
  let first ← hyphens ((← get).rest.length + 1)
  if first.isEmpty ∧ (← current) = ']' then
    advanceSkipping
    let _ ← current
    return (negated, [.range ⟨']', false⟩ ⟨']', false⟩])
  else return (negated, first)

/-- A named class of ASCII characters; what has another form is left to be read otherwise. -/
def asciiClass : Scan (Option ClassItem) := do
  let start ← get
  if ← accept "[:" then
    let negated ← accept "^"
    let state ← get
    let name := state.rest.takeWhile (· != ':')
    set { state with rest := state.rest.drop name.length }
    match asciiClass? (String.ofList name), ← accept ":]" with
    | some found, true => return some (.ascii found negated)
    | _, _ => set start; return none
  else return none

/-- A character or an escape inside a class. -/
def classAtom : Scan Expression := do
  let char ← current
  if char = '\\' then escape
  else
    advance 1
    return .letter ⟨char, false⟩

/-- The part of a class that an expression is, which places are not. -/
def itemOf? : Expression → Option ClassItem
  | .letter written => some (.range written written)
  | .shorthand kind negated => some (.shorthand kind negated)
  | .property name negated => some (.property name negated)
  | _ => none

/-- The range between two expressions, both of which have to be characters in order. -/
def rangeOf? : Expression → Expression → Option ClassItem
  | .letter first, .letter last => if first.char ≤ last.char then some (.range first last) else none
  | _, _ => none

/-- The character after a hyphen that decides whether it makes a range. -/
def deciding? (spaced : Bool) (rest : List Char) : Option Char :=
  -- Where blanks mean nothing they are passed over with one number sign, but not with a comment.
  if spaced then
    match Text.dropBlank rest with
    | '#' :: commented => (Text.dropBlank commented).head? <|> rest.head?
    | visible => visible.head? <|> rest.head?
  else rest.head?

/-- A part of a class that is a character, a range or an escape. -/
def classItem : Scan ClassItem := do
  -- A hyphen makes a range unless the end of the class or another hyphen follows it.
  let first ← classAtom
  skip
  if (← current) = '-' then
    let state ← get
    match deciding? state.spaced (state.rest.drop 1) with
    | some ']' => itemOf? first
    | some '-' => itemOf? first
    | _ =>
      advanceSkipping
      rangeOf? first (← classAtom)
  else itemOf? first

/-- The operation that begins with a character and the one after it. -/
def operation? : List Char → Option SetOperation
  | '&' :: '&' :: _ => some .intersection
  | '-' :: '-' :: _ => some .difference
  | '~' :: '~' :: _ => some .symmetricDifference
  | _ => none

/-- The rest of a class after its parts so far, within the frames that are still open. -/
def bracketFrom : Nat → List ClassFrame → List ClassItem → Scan (Bool × ClassBody)
  -- Each round takes at least one character, so there are no more rounds than characters.
  | 0, _, _ => failure
  | fuel + 1, frames, items => do
    skip
    let char ← current
    if char = '[' then
      match ← asciiClass with
      | some item => bracketFrom fuel frames (items ++ [item])
      | none =>
        let (negated, first) ← openBracket
        bracketFrom fuel (.opened items negated :: frames) first
    else if char = ']' then
      advance 1
      match closeOperation frames (.items items) with
      | ([.opened _ negated], body) => return (negated, body)
      | (.opened before negated :: outer, body) =>
        bracketFrom fuel outer (before ++ [.nested negated body])
      | _ => failure
    else match operation? (← get).rest with
      | some kind =>
        advance 2
        let (outer, left) := closeOperation frames (.items items)
        bracketFrom fuel (.operation kind left :: outer) []
      | none => bracketFrom fuel frames (items ++ [← classItem])

/-- A class in brackets. -/
def bracket : Scan Expression := do
  let (negated, first) ← openBracket
  let (negated, body) ← bracketFrom ((← get).rest.length + 1) [.opened [] negated] first
  return .bracket negated body

end Scan

end RecordFilter.Pattern
