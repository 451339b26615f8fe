import RecordFilter.Proofs.Predicate.Field
import RecordFilter.Proofs.Value.Conformity

/-! Paths that enter no list: the one value at their end, and conditions that ask about it alone. -/

namespace RecordFilter

/-- The value that segments lead to while they enter no list; null stands for whatever is missing. -/
def Segment.endpoint : List Segment → DataType → Value → Value
  | [], _, value => value
  | segment :: rest, .record _ fields, value =>
    -- The value is looked up under the schema's own spelling of the name.
    match Fields.lookup? segment.name fields, segment.index with
    | some (field, type), none => endpoint rest type (value.member field)
    | some (field, .list element), some place =>
      endpoint rest element ((value.member field).entry place)
    | _, _ => .null
  | _ :: _, _, _ => .null

/-- The value that the text of a path leads to while it enters no list. -/
def Path.endpoint (path : String) (type : DataType) (value : Value) : Value :=
  match read path with
  | .ok path => Segment.endpoint path.segments type value
  | .error _ => .null

namespace Value

variable {type element : DataType} {value : Value}

/-- What a conforming value holds under a declared name conforms to the type of the field. -/
theorem Conforms.member {name sought field : String} {declared : List (String × DataType)}
    (conforms : Conforms (.record name declared) value)
    (found : Fields.lookup? sought declared = some (field, type)) :
    Conforms type (value.member field) := by
  -- Null has no members, so what stands for them is null as well.
  cases value with
  | record fields => exact Conforms.field conforms found
  | null => exact .null
  | _ => cases conforms

/-- The entries of a conforming list conform to the type of its elements, also beyond its end. -/
theorem Conforms.entry (place : UInt64) (conforms : Conforms (.list element) value) :
    Conforms element (value.entry place) := by
  -- An index past the end gives null, which conforms to everything.
  cases value with
  | list items => exact Conforms.item place.toNat conforms
  | null => exact .null
  | _ => cases conforms

end Value

namespace Path.Leads

variable {segments : List Segment} {type reached : DataType}

/-- Segments that enter no list lead to one value. -/
theorem values_straight (leads : Leads segments type false reached) (value : Value) :
    (Route.ofSegments segments type).values value = [Segment.endpoint segments type value] := by
  -- No step branches, so each one hands a single value to the segments behind it.
  generalize crossed : false = entered at leads
  induction leads generalizing value with
  | done => rfl
  | enter => cases crossed
  | field plain found _ ih =>
    rw [Route.ofSegments_field plain found, Route.values, Focus.take_field, ih _ crossed]
    simp only [Segment.endpoint, found, plain]
  | item indexed found _ ih =>
    rw [Route.ofSegments_item indexed found, Route.values, Route.values, Focus.take_field,
      Focus.take_item, ih _ crossed]
    simp only [Segment.endpoint, found, indexed]

/-- From a value that conforms, segments that enter no list lead to one that conforms. -/
theorem endpoint_conforms (leads : Leads segments type false reached) {value : Value}
    (conforms : value.Conforms type) : (Segment.endpoint segments type value).Conforms reached := by
  -- No list is entered, so the way is one of fields and indexed items.
  -- The flag is named for the induction; its `enter` case is then impossible.
  generalize crossed : false = entered at leads
  induction leads generalizing value with
  | done => exact conforms
  | enter => cases crossed
  | field plain found _ ih =>
    simp only [Segment.endpoint, found, plain]
    exact ih (conforms.member found) crossed
  | item indexed found _ ih =>
    simp only [Segment.endpoint, found, indexed]
    exact ih ((conforms.member found).entry _) crossed

end Path.Leads

/-- From a value that conforms, a path that enters no list leads to one that conforms. -/
theorem Path.endpoint_conforms {path : String} {type reached : DataType} {value : Value}
    (reaches : Reaches path type false reached) (conforms : value.Conforms type) :
    (endpoint path type value).Conforms reached := by
  -- The path reads as the segments that lead to the type.
  obtain ⟨read, good, leads⟩ := reaches
  simp only [endpoint, good]
  exact leads.endpoint_conforms conforms

namespace Operator

variable {operator : Operator} {path : String} {type reached : DataType}

/-- An operator that compares asks about what is no list as it is, and a null check about anything. -/
theorem ends_straight (plain : operator.isQuantifier = false)
    (whole : operator.isNullCheck = false → reached.isList = false) (value : Value) :
    operator.ends reached value = [⟨reached, value⟩] := by
  -- A null check asks the value as it is, a comparison enters the lists of a type that has none.
  cases check : operator.isNullCheck with
  | true =>
    have demanded : operator.demand = .nothing := by
      simpa [isNullCheck_eq] using check
    simp only [ends, demanded]
  | false =>
    have single : reached.isList = false := whole check
    rw [ends_eq_throughout plain check]
    cases reached with
    | list element => cases single
    | _ => rfl

/-- Where a path enters no list and ends at none, it has one leaf. -/
theorem leavesAt_straight (plain : operator.isQuantifier = false)
    (reaches : Path.Reaches path type false reached)
    (whole : operator.isNullCheck = false → reached.isList = false) (value : Value) :
    operator.leavesAt path type value = [⟨reached, Path.endpoint path type value⟩] := by
  -- One value arrives, and it is its own end.
  obtain ⟨read, good, leads⟩ := reaches
  simp only [leavesAt, Path.endpoint, good, leads.leaves_eq, leads.values_straight,
    List.flatMap_cons, List.flatMap_nil, List.append_nil, ends_straight plain whole]

end Operator

namespace Filter

variable {settings : Settings} {type reached : DataType} {path : String} {operator : Operator}
  {literal : Option Literal} {negated : Bool}

/-- A condition whose path enters no list and ends at none asks about the one value there. -/
theorem reading_straight (plain : operator.isQuantifier = false)
    (reaches : Path.Reaches path type false reached)
    (whole : operator.isNullCheck = false → reached.isList = false) (value : Value) :
    (condition path operator literal negated).reading settings type value =
      (operator.asks settings reached (literal.getD .null) (Path.endpoint path type value) !=
        negated) := by
  -- One leaf, one answer.
  rw [reading, Operator.leavesAt_straight plain reaches whole, Operator.among_singleton]

end Filter

end RecordFilter
