import RecordFilter.Json.Numeral

/-! JSON texts as they are written: the grammar alone, before numbers and strings are understood. -/

namespace RecordFilter.Json

/-- A text that follows the grammar of JSON; its numbers and strings may still be senseless. -/
inductive Written
  | null
  | boolean (value : Bool)
  | number (numeral : NumberToken)
  | string (codes : List Nat)
  | array (items : List Written)
  | object (members : List (List Nat × Written))
  deriving Repr

namespace Written

/-- An array or object that is still open, with what it holds so far backwards. -/
inductive Frame
  | items (before : List Written)
  | members (before : List (List Nat × Written))
  | member (before : List (List Nat × Written)) (name : List Nat)

/-- What the next token may be. -/
inductive Expectation
  | value
  | valueOrEnd
  | name
  | nameOrEnd
  | colon
  | more (complete : Written)

/-- The state of reading: the open frames from the innermost outwards, and the expectation. -/
abbrev State : Type :=
  List Frame × Expectation

/-- The state after a token that begins a value. -/
def begin? (frames : List Frame) : Token → Option State
  -- A closing token or a separator begins no value.
  | .null => some (frames, .more .null)
  | .boolean value => some (frames, .more (.boolean value))
  | .number numeral => some (frames, .more (.number numeral))
  | .string codes => some (frames, .more (.string codes))
  | .openBracket => some (.items [] :: frames, .valueOrEnd)
  | .openBrace => some (.members [] :: frames, .nameOrEnd)
  | _ => none

/-- The state after a token that follows a complete value. -/
def follow? (frames : List Frame) (complete : Written) : Token → Option State
  -- A comma keeps the innermost frame open, and its own closing token makes it a complete value.
  | .comma =>
    match frames with
    | .items before :: outer => some (.items (complete :: before) :: outer, .value)
    | .member before name :: outer => some (.members ((name, complete) :: before) :: outer, .name)
    | _ => none
  | .closeBracket =>
    match frames with
    | .items before :: outer => some (outer, .more (.array (complete :: before).reverse))
    | _ => none
  | .closeBrace =>
    match frames with
    | .member before name :: outer =>
      some (outer, .more (.object ((name, complete) :: before).reverse))
    | _ => none
  | _ => none

/-- The state after a token that is the name of a member. -/
def named? (frames : List Frame) : Token → Option State
  | .string name =>
    match frames with
    | .members before :: outer => some (.member before name :: outer, .colon)
    | _ => none
  | _ => none

/-- The state after one more token, if it is one of those expected. -/
def step? : State → Token → Option State
  -- An empty array or object ends where its first content could stand.
  | (.items _ :: outer, .valueOrEnd), .closeBracket => some (outer, .more (.array []))
  | (.members _ :: outer, .nameOrEnd), .closeBrace => some (outer, .more (.object []))
  | (frames, .value), token => begin? frames token
  | (frames, .valueOrEnd), token => begin? frames token
  | (frames, .name), token => named? frames token
  | (frames, .nameOrEnd), token => named? frames token
  | (frames, .colon), .colon => some (frames, .value)
  | (_, .colon), _ => none
  | (frames, .more complete), token => follow? frames complete token

/-- The value that tokens make up, if nothing is left open at their end. -/
def ofTokens? (tokens : List Token) : Option Written :=
  match tokens.foldlM step? ([], .value) with
  | some ([], .more complete) => some complete
  | _ => none

/-- Reads a text that is one JSON value. -/
def read? (text : String) : Option Written :=
  (tokens? text.toList).bind ofTokens?

end Written

/-- The characters of string codes, in which only surrogates that form a pair stand for a character. -/
def chars? : List Nat → Option (List Char)
  -- A pair of surrogates counts from the first code beyond sixteen bits.
  | [] => some []
  | high :: low :: rest =>
    if 0xD800 ≤ high ∧ high < 0xDC00 then
      if 0xDC00 ≤ low ∧ low < 0xE000 then
        (chars? rest).map (Char.ofNat (0x10000 + (high - 0xD800) * 0x400 + (low - 0xDC00)) :: ·)
      else none
    else if 0xDC00 ≤ high ∧ high < 0xE000 then none
    else (chars? (low :: rest)).map (Char.ofNat high :: ·)
  | [code] => if 0xD800 ≤ code ∧ code < 0xE000 then none else some [Char.ofNat code]

/-- The text of string codes. -/
def text? (codes : List Nat) : Option String :=
  (chars? codes).map String.ofList

mutual
/-- The value of a written text, whose arrays and objects nest at most so deep. -/
def Written.value? (room : Nat) : Written → Option Json
  | .null => some .null
  | .boolean value => some (.boolean value)
  | .number numeral => numeral.number?.map .number
  | .string codes => (text? codes).map .string
  | .array items => if room = 0 then none else (itemValues? (room - 1) items).map .array
  | .object members => if room = 0 then none else (memberValues? (room - 1) members).map .object
/-- The values of the items of an array. -/
def itemValues? (room : Nat) : List Written → Option (List Json)
  | [] => some []
  | item :: rest => do
    let value ← item.value? room
    let values ← itemValues? room rest
    return value :: values
/-- The names and values of the members of an object. -/
def memberValues? (room : Nat) : List (List Nat × Written) → Option (List (String × Json))
  | [] => some []
  | (name, member) :: rest => do
    let name ← text? name
    let value ← member.value? room
    let values ← memberValues? room rest
    return (name, value) :: values
end

/-- How deep arrays and objects may nest. -/
def nestingLimit : Nat :=
  127

/-- Reads a text that is one JSON value. -/
def read? (text : String) : Option Json :=
  (Written.read? text).bind (Written.value? nestingLimit)

end RecordFilter.Json
