import RecordFilter.Pattern.Automaton.Basic
import RecordFilter.Pattern.Meaning
import RecordFilter.Pattern.Search
import RecordFilter.Pattern.Text

/-! Patterns that are ready to be searched for. -/

namespace RecordFilter

/-- A pattern that has been read and is not too large. -/
structure Pattern where
  regex : Regex
  deriving Repr

namespace Pattern

/-- Prepares a pattern, unless it is senseless or exceeds a limit of bytes. -/
def compile? (limit : Nat) (text : String) : Option Pattern := do
  let expression ← Expression.read? text
  let regex ← expression.regex?
  guard (regex.fits limit)
  return ⟨regex⟩

/-- The pattern holds of some part of a text. -/
def occursIn (pattern : Pattern) (text : String) : Bool :=
  pattern.regex.occursIn text

/-- The limit of bytes for the patterns of filters where none is set. -/
def defaultLimit : Nat :=
  Nat.pow 2 20

/-- The limit of bytes for patterns that are not part of a filter. -/
def freeLimit : Nat :=
  10 * Nat.pow 2 20

end Pattern

end RecordFilter
