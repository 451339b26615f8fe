import RecordFilter.Numeral.Layout
import RecordFilter.Text.Blank
import RecordFilter.Text.Search
import RecordFilter.Unicode.Word

/-! Paths into records: field names with points between them, each with an index in brackets or without. -/

namespace RecordFilter

/-- A step of a path: a field, and the place in a list that the field holds. -/
structure Segment where
  name : String
  index : Option UInt64
  deriving DecidableEq, Repr

/-- A path from the value in focus; the empty one leads to that value itself. -/
structure Path where
  segments : List Segment
  deriving DecidableEq, Repr

/-- Why a text is no path; each cause but the first carries the offending part. -/
inductive PathError
  | emptySegment
  | invalidSegment (segment : String)
  | negativeIndex (index : String)
  | invalidIndex (index : String)
  deriving DecidableEq, Repr

/-- The wording of a path error. -/
def PathError.message : PathError → String
  | .emptySegment => "empty path segment"
  | .invalidSegment segment => "invalid path segment '" ++ segment ++ "'"
  | .negativeIndex index => "negative index [" ++ index ++ "]"
  | .invalidIndex index => "index [" ++ index ++ "] is not a non-negative integer"

namespace Segment

/-- A name may start with an ASCII letter or an underscore. -/
def startsName (char : Char) : Bool :=
  char.isAlpha || char == '_'

/-- Splits a segment into its name and the text between the brackets after it. -/
def shape? (chars : List Char) : Option (List Char × Option (List Char)) :=
  -- The closing bracket ends the segment and stands nowhere else.
  match chars with
  | [] => none
  | first :: _ =>
    let name := chars.takeWhile Unicode.isWord
    if !startsName first then none
    else match chars.dropWhile Unicode.isWord with
      | [] => some (name, none)
      | '[' :: rest =>
        if rest.getLast? = some ']' ∧ ¬ rest.dropLast.contains ']' then
          some (name, some rest.dropLast)
        else none
      | _ => none

/-- Reads an index in decimal digits, which has to fit 64 bits. -/
def readIndex (chars : List Char) : Except PathError UInt64 :=
  -- A minus sign is reported as such even after blanks.
  if (Text.dropBlank chars).head? = some '-' then .error (.negativeIndex (String.ofList chars))
  else if chars ≠ [] ∧ chars.all Numeral.isDigit ∧ Numeral.ofDigits chars < UInt64.size then
    .ok (UInt64.ofNat (Numeral.ofDigits chars))
  else .error (.invalidIndex (String.ofList chars))

/-- Reads a segment. -/
def read (chars : List Char) : Except PathError Segment :=
  match chars with
  | [] => .error .emptySegment
  | _ =>
    match shape? chars with
    | none => .error (.invalidSegment (String.ofList chars))
    | some (name, none) => .ok ⟨String.ofList name, none⟩
    | some (name, some index) => (readIndex index).map fun value => ⟨String.ofList name, some value⟩

/-- A segment as text. -/
def text (segment : Segment) : String :=
  match segment.index with
  | none => segment.name
  | some index => segment.name ++ "[" ++ toString index.toNat ++ "]"

end Segment

namespace Path

/-- The path of no segments. -/
def empty : Path :=
  ⟨[]⟩

/-- Reads a path; of several faults the first is reported. -/
def read (text : String) : Except PathError Path :=
  -- Only the empty text has no segments; otherwise there is one more of them than of points.
  match text.toList with
  | [] => .ok empty
  | chars => ((Text.pieces '.' chars).mapM Segment.read).map Path.mk

/-- A path as text. -/
def text (path : Path) : String :=
  Text.joined "." (path.segments.map Segment.text)

/-- The path that is left after some of its segments. -/
def tail (path : Path) (count : Nat) : Path :=
  ⟨path.segments.drop count⟩

end Path

end RecordFilter
