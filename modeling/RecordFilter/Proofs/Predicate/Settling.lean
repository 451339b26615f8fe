import RecordFilter.Proofs.Predicate.Agreement
import RecordFilter.Proofs.Value.Dense

/-! Answers that are found without a schema: how they settle those that follow the types, along a path. -/

namespace RecordFilter

/-- Where there is an outcome it is the answer, and under a condition there is one. -/
structure Settles (sure : Prop) (outcome : Option Bool) (answer : Bool) : Prop where
  only : ∀ other, outcome = some other → other = answer
  given : sure → outcome = some answer

namespace Settles

variable {sure : Prop} {outcome : Option Bool} {answer : Bool}

/-- An outcome that is there settles itself. -/
theorem some (answer : Bool) : Settles sure (.some answer) answer :=
  ⟨fun _ same => (Option.some.inj same).symm, fun _ => rfl⟩

/-- Two steps settle an answer when the first does and the second does from there. -/
theorem bind {next : Bool → Option Bool} {final : Bool} (first : Settles sure outcome answer)
    (second : Settles sure (next answer) final) : Settles sure (outcome >>= next) final := by
  -- What is reached was reached through the answer of the first.
  constructor
  · intro other reached
    obtain ⟨between, here, after⟩ := Option.bind_eq_some_iff.1 reached
    rw [first.only between here] at after
    exact second.only other after
  · intro condition
    exact Option.bind_eq_some_iff.2 ⟨answer, first.given condition, second.given condition⟩

/-- A function of the outcome settles the function of the answer. -/
theorem map (change : Bool → Bool) (settles : Settles sure outcome answer) :
    Settles sure (outcome.map change) (change answer) := by
  -- Changing an answer changes nothing about how it was reached.
  constructor
  · intro other changed
    obtain ⟨before, here, rfl⟩ := Option.map_eq_some_iff.1 changed
    rw [settles.only before here]
  · intro condition
    rw [settles.given condition]
    rfl

end Settles

variable {sure : Prop}

namespace Quantifier

variable {quantifier : Quantifier} {ask : Value → Option Bool} {test : Value → Bool}

/-- Asking values in turn settles what the quantifier makes of all answers. -/
theorem poll?_settles {values : List Value}
    (each : ∀ value ∈ values, Settles sure (ask value) (test value)) :
    Settles sure (quantifier.poll? ask values) (quantifier.over test values) := by
  induction values with
  | nil =>
    cases quantifier with
    | all | any => exact .some _
  | cons value rest ih =>
    obtain ⟨first, others⟩ := List.forall_mem_cons.1 each
    have after : Settles sure (quantifier.poll? ask rest) (quantifier.over test rest) := ih others
    refine first.bind ?_
    -- One answer leaves the question open to the values that follow, and the other one settles it.
    cases quantifier with
    | all =>
      rw [Quantifier.over, List.all_cons]
      cases test value with
      | true => exact after
      | false => exact .some false
    | any =>
      rw [Quantifier.over, List.any_cons]
      cases test value with
      | true => exact .some true
      | false => exact after

end Quantifier

namespace Value

variable {quantifier : Quantifier} {ask : Value → Option Bool}

/-- Visiting the items of a list is asking them in turn, each with what it holds. -/
theorem visitItems?_eq_poll? (items : List Value) :
    visitItems? quantifier ask items = quantifier.poll? (visit? quantifier ask) items := by
  -- The two recursions take the items off in the same order.
  induction items with
  | nil => rfl
  | cons item rest ih => rw [visitItems?, Quantifier.poll?, ih]

/-- What is no list is asked itself. -/
theorem visit?_single {value : Value} (single : ∀ items, value ≠ .list items) :
    value.visit? quantifier ask = ask value := by
  -- Only a list is visited item by item.
  cases value with
  | list items => exact absurd rfl (single items)
  | _ => rfl

end Value

/-- Beyond every segment with an index there are no lists any more. -/
def Path.Shallow (segments : List Segment) (type : DataType) : Prop :=
  ∀ before segment after entered reached, segments = before ++ segment :: after →
    segment.index ≠ none → Leads (before ++ [segment]) type entered reached → reached.ListFree

namespace Path.Leads

variable {segment : Segment} {segments rest : List Segment} {type element reached : DataType}
  {entered : Bool} {name spelling : String} {fields : List (String × DataType)}

/-- The type that a path reaches from an elementary one is elementary. -/
theorem elementary (leads : Leads segments type entered reached)
    (elementary : type.Elementary) : reached.Elementary := by
  -- Every step leads to an element or to a declared field.
  induction leads with
  | done => exact elementary
  | enter _ ih => exact ih elementary.of_list
  | field plain found _ ih => exact ih (elementary.of_lookup? found)
  | item indexed found _ ih => exact ih (elementary.of_lookup? found).of_list

end Path.Leads

namespace Path.Shallow

variable {segment : Segment} {rest : List Segment} {type element : DataType}
  {name spelling : String} {fields : List (String × DataType)}

/-- A path that takes no items from lists is shallow. -/
theorem of_plain {segments : List Segment} (plain : ∀ segment ∈ segments, segment.index = none) :
    Shallow segments type := by
  -- Shallowness asks something of indexed segments only.
  rintro before segment after entered reached rfl indexed -
  exact absurd (plain segment (by simp)) indexed

/-- What is shallow from a list is so from its elements. -/
theorem enter (shallow : Shallow (segment :: rest) (.list element)) :
    Shallow (segment :: rest) element := by
  -- Entering the list first turns any path from the element into one from the list.
  intro before other after entered reached same indexed leads
  refine shallow before other after true reached same indexed ?_
  cases before with
  | nil => exact .enter leads
  | cons first others => exact .enter leads

/-- What is shallow from a record is so from the field that the first segment names. -/
theorem field (shallow : Shallow (segment :: rest) (.record name fields))
    (plain : segment.index = none)
    (found : Fields.lookup? segment.name fields = some (spelling, type)) : Shallow rest type := by
  -- A path from the field's type is one from the record with one more segment.
  intro before other after entered reached same indexed leads
  exact shallow (segment :: before) other after entered reached (congrArg _ same) indexed
    (.field plain found leads)

/-- What is shallow from a record is so from the item that the first segment stands for. -/
theorem item {place : UInt64} (shallow : Shallow (segment :: rest) (.record name fields))
    (indexed : segment.index = some place)
    (found : Fields.lookup? segment.name fields = some (spelling, .list element)) :
    Shallow rest element := by
  -- As for a field, with the index kept on the segment.
  intro before other after entered reached same again leads
  exact shallow (segment :: before) other after entered reached (congrArg _ same) again
    (.item indexed found leads)

/-- A shallow path takes items from lists only whose elements are without lists. -/
theorem free {place : UInt64} (shallow : Shallow (segment :: rest) (.record name fields))
    (indexed : segment.index = some place)
    (found : Fields.lookup? segment.name fields = some (spelling, .list element)) :
    element.ListFree := by
  -- The indexed segment stands first, so shallowness speaks of it directly.
  have there : segment.index ≠ none := fun none => by simp [none] at indexed
  exact shallow [] segment rest false element rfl there (.item indexed found .done)

end Path.Shallow

namespace Segment

variable {quantifier : Quantifier} {ask : Value → Option Bool} {test : Value → Bool}

/-- Following segments settles what the quantifier makes of the answers at the end of their route. -/
theorem follow?_settles {segments : List Segment} {type reached : DataType} {entered : Bool}
    (leads : Path.Leads segments type entered reached) (elementary : type.Elementary)
    (shallow : Path.Shallow segments type)
    (each : ∀ value, Value.Regular reached value → Settles sure (ask value) (test value))
    {value : Value} (regular : Value.Regular type value) :
    Settles sure (follow? quantifier ask segments value)
      (quantifier.over test ((Route.ofSegments segments type).values value)) := by
  -- Regular values are lists exactly where the type says so, which keeps both sides in step.
  induction leads generalizing value with
  | done =>
    have one : quantifier.over test [value] = test value := by
      cases quantifier with
      | all | any => simp [Quantifier.over]
    rw [Route.ofSegments, Route.values, one]
    exact each value regular
  | @enter segment rest element reached entered _ ih =>
    -- The type and the value call for the same list here, which both sides enter.
    obtain ⟨items, rfl, every⟩ := regular.list_items
    rw [Route.ofSegments_list, Route.values, Focus.elements_value, Quantifier.over_flatMap]
    show Settles sure (Value.visitItems? quantifier _ items) _
    rw [Value.visitItems?_eq_poll?]
    exact Quantifier.poll?_settles fun item member =>
      ih elementary.of_list shallow.enter each (every item member)
  | @field segment rest name spelling fields type reached entered plain found _ ih =>
    have single : ∀ items, value ≠ .list items :=
      regular.ne_list fun element same => by cases same
    have target : segment.target value = value.member spelling := by
      rw [Segment.target, plain, regular.held elementary found]
    rw [Route.ofSegments_field plain found, Route.values, Focus.take_field, follow?,
      Value.visit?_single single, target]
    exact ih (elementary.of_lookup? found) (shallow.field plain found) each (regular.field found)
  | @item segment rest place name spelling fields element reached entered indexed found _ ih =>
    have single : ∀ items, value ≠ .list items :=
      regular.ne_list fun element same => by cases same
    have target : segment.target value = (value.member spelling).entry place := by
      rw [Segment.target, indexed, regular.held elementary found]
      exact Focus.take_item place (value.member spelling)
    rw [Route.ofSegments_item indexed found, Route.values, Route.values, Focus.take_field,
      Focus.take_item, follow?, Value.visit?_single single, target]
    exact ih (elementary.of_lookup? found).of_list (shallow.item indexed found) each
      ((regular.field found).entry (shallow.free indexed found) place)

end Segment

end RecordFilter
