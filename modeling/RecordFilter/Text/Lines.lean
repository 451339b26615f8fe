/-! The lines of a text, each without the line feed or carriage return and line feed that ends it. -/

namespace RecordFilter.Text

/-- Removes the carriage return that belongs to a line ending; the line is held backwards. -/
def dropReturn : List Char → List Char
  | '\r' :: before => before
  | line => line

/-- Splits off lines, with the characters of the current one held backwards. -/
def splitLines : List Char → List Char → List (List Char)
  -- A text that ends in a line feed has no further empty line after it.
  | [], [] => []
  | current, [] => [current.reverse]
  | current, '\n' :: rest => (dropReturn current).reverse :: splitLines [] rest
  | current, char :: rest => splitLines (char :: current) rest

/-- The lines of a text in order; a carriage return counts as part of an ending only before a line feed. -/
def lines (text : String) : List String :=
  (splitLines [] text.toList).map String.ofList

end RecordFilter.Text
