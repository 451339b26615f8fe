import RecordFilter.Json.Written
import RecordFilter.Predicate.Basic
import RecordFilter.Text.Lines
import RecordFilter.Value.Conversion

/-! Filtering a text of records, each of which is the JSON object of a line. -/

namespace RecordFilter

/-- Why a line is no record. -/
inductive StreamError
  | notJson (line : Nat)
  | misfit (line : Nat) (cause : ConversionError)
  deriving Repr

/-- The wording of a stream error. -/
def StreamError.message (error : StreamError) (reasons : Reasons := .untold) : String :=
  match error with
  | .notJson line =>
    "Record on line " ++ toString line ++ " is not valid JSON: " ++ reasons.line line
  | .misfit line cause =>
    "Record on line " ++ toString line ++ " does not match the schema: " ++ cause.message reasons

/-- How many records were read, and how many of them matched. -/
structure Summary where
  read : Nat
  matched : Nat
  deriving DecidableEq, Repr

/-- What filtering writes, and how it ends. -/
structure Filtered where
  written : String
  outcome : Except StreamError Summary

/-- The record of a line. -/
def Record.ofLine (schema : Schema) (number : Nat) (line : String) : Except StreamError Record :=
  match Json.read? line with
  | none => .error (.notJson number)
  | some json => (Record.ofJson schema json).mapError (.misfit number)

namespace Predicate

/-- The lines that match from a line number on, and the number of records or why the next one fails. -/
def matchingLines (predicate : Predicate) (schema : Schema) :
    Nat → List String → List String × Except StreamError Nat
  -- Blank lines hold no record, but they count as lines.
  | _, [] => ([], .ok 0)
  | number, line :: rest =>
    if Text.allBlank line then predicate.matchingLines schema (number + 1) rest
    else match Record.ofLine schema number line with
      | .error cause => ([], .error cause)
      | .ok record =>
        let (kept, outcome) := predicate.matchingLines schema (number + 1) rest
        (if predicate.test record then line :: kept else kept, outcome.map (· + 1))

/-- Filters a text of records: writes the lines that match, or only their number. -/
def filterText (predicate : Predicate) (schema : Schema) (countOnly : Bool) (text : String) :
    Filtered :=
  -- Lines before one that fails are written all the same, but their number is not.
  let (kept, outcome) := predicate.matchingLines schema 1 (Text.lines text)
  let summary := outcome.map fun read => Summary.mk read kept.length
  let written :=
    if countOnly then
      match summary with
      | .ok summary => toString summary.matched ++ "\n"
      | .error _ => ""
    else Text.joined "" (kept.map (· ++ "\n"))
  ⟨written, summary⟩

end Predicate

end RecordFilter
