import RecordFilter.Filter.Path

/-! Why a part of a filter that is given as a word is not understood. -/

namespace RecordFilter

/-- A text that is no path, or a word that names no operator or combinator. -/
inductive WordError
  | malformedPath (text : String) (cause : PathError)
  | unknownOperator (word : String)
  deriving DecidableEq, Repr

/-- The wording of a word error. -/
def WordError.message : WordError → String
  | .malformedPath text cause => "Malformed path '" ++ text ++ "': " ++ cause.message
  | .unknownOperator word => "Unknown operator: " ++ word

end RecordFilter
