import RecordFilter.Value.Basic

/-! The order of values, exact across the kinds of numbers, and their equality, in which null counts. -/

namespace RecordFilter

namespace Value

/-- Orders an integer and a binary64 number exactly; infinities lie beyond every integer. -/
def compareIntFloat? (integer : Int64) (float : Double) : Option Ordering :=
  -- Turning the integer into binary64 first would round those beyond two to the power of 53.
  match float with
  | .infinite negative => some (if negative then .gt else .lt)
  | _ => float.toDecimal?.map fun exact => (Decimal.ofInt integer.toInt).compare exact

/-- Orders two scalars of kinds that go together: numbers of any kind, otherwise the same kind. -/
def compare? : Value → Value → Option Ordering
  -- A binary64 number that is not finite has no exact decimal to be compared with one.
  | .int left, .int right => some (compare left.toInt right.toInt)
  | .float left, .float right => left.compare? right
  | .int left, .float right => compareIntFloat? left right
  | .float left, .int right => (compareIntFloat? right left).map Ordering.swap
  | .decimal left, .decimal right => some (left.compare right)
  | .decimal left, .int right => some (left.compare (Decimal.ofInt right.toInt))
  | .int left, .decimal right => some ((Decimal.ofInt left.toInt).compare right)
  | .decimal left, .float right => right.toDecimal?.map left.compare
  | .float left, .decimal right => left.toDecimal?.map (·.compare right)
  | .string left, .string right => some (compare left right)
  | .boolean left, .boolean right => some (compare left right)
  | .date left, .date right => some (left.compare right)
  | .timestamp left, .timestamp right => some (left.compare right)
  | .uuid left, .uuid right => some (left.compare right)
  | _, _ => none

mutual
/-- Null equals null alone; lists and records are compared by their parts, and scalars by their order. -/
def equal : Value → Value → Bool
  | .null, other => other.isNull
  | .list items, .list others => equalItems items others
  | .record fields, .record others =>
    -- A field that one side lacks counts as null, on either side.
    (tests fields).all (fun field => field.2 ((Fields.get? field.1 others).getD .null)) &&
      others.all fun other => ((Fields.get? other.1 (tests fields)).getD isNull) other.2
  | value, other => value.compare? other == some .eq
/-- Lists are equal when they are of one length and equal item by item. -/
def equalItems : List Value → List Value → Bool
  | [], [] => true
  | item :: rest, other :: others => item.equal other && equalItems rest others
  | _, _ => false
/-- Each field of a record as the test of being equal to its value. -/
def tests : List (String × Value) → List (String × (Value → Bool))
  | [] => []
  | (name, value) :: rest => (name, value.equal) :: tests rest
end

end Value

namespace Record

/-- Records are equal by the names of their fields, in which a missing field counts as null. -/
def equal (left right : Record) : Bool :=
  (Value.record left.fields).equal (.record right.fields)

end Record

end RecordFilter
