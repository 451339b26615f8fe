import RecordFilter.Json.Written

/-! Members of objects and items of arrays that have a place in what is read from them. -/

namespace RecordFilter.Json

/-- Fills a place that is still free. -/
def fill? (place : Option α) (content : Option α) : Option (Option α) :=
  -- A member that is repeated finds its place taken.
  match place with
  | none => content.map some
  | some _ => none

namespace Written

/-- The text of a string. -/
def string? : Written → Option String
  | .string codes => text? codes
  | _ => none

/-- The value is null. -/
def isNull : Written → Bool
  | .null => true
  | _ => false

/-- The number of a numeral. -/
def number? : Written → Option Number
  | .number numeral => numeral.number?
  | _ => none

/-- A name that stands for itself: alone, or in an object as the name of null. -/
def word? (room : Nat) : Written → Option String
  -- An object takes up a level of nesting.
  | .string codes => text? codes
  | .object [(name, content)] => if 0 < room ∧ content.isNull then text? name else none
  | _ => none

end Written

end RecordFilter.Json
