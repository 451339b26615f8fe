import RecordFilter.Predicate.Compile
import RecordFilter.Proofs.Outcome

/-! Where the route of a path arrives, and how the probe along it ends in what is asked there. -/

namespace RecordFilter

/-- Segments lead from one type to another, and either enter the elements of lists on the way or do not. -/
inductive Path.Leads : List Segment → DataType → Bool → DataType → Prop
  -- A list is entered only for the sake of a segment that is still ahead.
  | done {type : DataType} : Leads [] type false type
  | enter {segment : Segment} {rest : List Segment} {element reached : DataType} {entered : Bool}
      (further : Leads (segment :: rest) element entered reached) :
      Leads (segment :: rest) (.list element) true reached
  | field {segment : Segment} {rest : List Segment} {name spelling : String}
      {fields : List (String × DataType)} {type reached : DataType} {entered : Bool}
      (plain : segment.index = none)
      (found : Fields.lookup? segment.name fields = some (spelling, type))
      (further : Leads rest type entered reached) :
      Leads (segment :: rest) (.record name fields) entered reached
  | item {segment : Segment} {rest : List Segment} {place : UInt64} {name spelling : String}
      {fields : List (String × DataType)} {element reached : DataType} {entered : Bool}
      (indexed : segment.index = some place)
      (found : Fields.lookup? segment.name fields = some (spelling, .list element))
      (further : Leads rest element entered reached) :
      Leads (segment :: rest) (.record name fields) entered reached

namespace Route

/-- Whether a route enters the elements of a list, and the type at its end. -/
def arrival : Route → Except RouteError (Bool × DataType)
  | .arrive type => .ok (false, type)
  | .fail cause => .error cause
  | .step _ next => next.arrival
  | .spread _ _ next => next.arrival.map fun ending => (true, ending.2)

/-- The probe that follows a route and then another probe. -/
def toward (quantifier : Quantifier) (last : Probe) : Route → Probe
  | .arrive _ | .fail _ => last
  | .step taken next => .step taken (next.toward quantifier last)
  | .spread _ _ next => .each quantifier (next.toward quantifier last)

/-- The values at the end of a route, from all elements of the lists that it enters. -/
def values : Route → Value → List Value
  | .arrive _, value | .fail _, value => [value]
  | .step taken next, value => next.values ((Focus.value value).take taken).content
  | .spread _ _ next, value => (Focus.value value).elements.flatMap next.values

/-- The route of a segment from a list goes through the elements of the list. -/
theorem ofSegments_list {segment : Segment} {rest : List Segment} {element : DataType} :
    ofSegments (segment :: rest) (.list element) =
      .spread element ⟨segment :: rest⟩ (ofSegments (segment :: rest) element) :=
  rfl

/-- The route of a segment without an index from a record goes on from the field it names. -/
theorem ofSegments_field {segment : Segment} {rest : List Segment} {name spelling : String}
    {fields : List (String × DataType)} {type : DataType} (plain : segment.index = none)
    (found : Fields.lookup? segment.name fields = some (spelling, type)) :
    ofSegments (segment :: rest) (.record name fields) =
      .step (.field spelling) (ofSegments rest type) := by
  -- The lookup and the missing index settle both choices, so the route unfolds by one step.
  simp only [ofSegments, within, field, found, index, plain]

/-- The route of a segment with an index from a record goes on from an item of the list it names. -/
theorem ofSegments_item {segment : Segment} {rest : List Segment} {place : UInt64}
    {name spelling : String} {fields : List (String × DataType)} {element : DataType}
    (indexed : segment.index = some place)
    (found : Fields.lookup? segment.name fields = some (spelling, .list element)) :
    ofSegments (segment :: rest) (.record name fields) =
      .step (.field spelling) (.step (.item place) (ofSegments rest element)) := by
  -- With one, the step into the field is followed by a step into its list.
  simp only [ofSegments, within, field, found, index, indexed]

/-- Where segments lead, their route arrives. -/
theorem arrival_of_leads {segments : List Segment} {type reached : DataType} {entered : Bool}
    (leads : Path.Leads segments type entered reached) :
    (ofSegments segments type).arrival = .ok (entered, reached) := by
  -- Each constructor is one step of the route, so its equation is rewritten and the rest follows.
  induction leads with
  | done => rfl
  | enter further ih =>
    rw [ofSegments_list, arrival, ih]
    rfl
  | field plain found further ih => rw [ofSegments_field plain found, arrival, ih]
  | item indexed found further ih => rw [ofSegments_item indexed found, arrival, arrival, ih]

/-- Where a route arrives, its segments lead. -/
theorem leads_of_arrival {segments : List Segment} {type reached : DataType} {entered : Bool}
    (arrived : (ofSegments segments type).arrival = .ok (entered, reached)) :
    Path.Leads segments type entered reached := by
  -- The induction is on the segments, since a segment may have several lists before it.
  induction segments generalizing type entered with
  | nil =>
    simp only [ofSegments, arrival, Except.ok.injEq, Prod.mk.injEq] at arrived
    obtain ⟨rfl, rfl⟩ := arrived
    exact .done
  | cons segment rest ih =>
    -- Layers of lists around the type are entered one by one before the segment is looked up.
    simp only [ofSegments] at arrived
    induction type using within.induct generalizing entered with
    | case1 element ihType =>
      simp only [within, arrival, Outcome.map_eq_ok, Prod.mk.injEq, Prod.exists] at arrived
      obtain ⟨inner, type, arrived, rfl, rfl⟩ := arrived
      exact .enter (ihType arrived)
    | case2 type scalar =>
      cases type with
      | list element => exact absurd rfl (scalar element)
      | record name fields =>
        simp only [within, field] at arrived
        cases found : Fields.lookup? segment.name fields with
        | none => simp [found, arrival] at arrived
        | some declared =>
          obtain ⟨spelling, type⟩ := declared
          cases indexed : segment.index with
          | none =>
            simp only [found, index, indexed, arrival] at arrived
            exact .field indexed found (ih arrived)
          | some place =>
            cases type with
            | list element =>
              simp only [found, index, indexed, arrival] at arrived
              exact .item indexed found (ih arrived)
            | _ => simp [found, index, indexed, arrival] at arrived
      | _ => simp [within, field, arrival] at arrived

/-- The segments of a path lead exactly where their route arrives. -/
theorem arrival_eq_ok {segments : List Segment} {type reached : DataType} {entered : Bool} :
    (ofSegments segments type).arrival = .ok (entered, reached) ↔
      Path.Leads segments type entered reached :=
  ⟨leads_of_arrival, arrival_of_leads⟩

/-- A route that arrives hands what it found there to the end of the probe. -/
theorem probe_of_arrival {route : Route} {site : Site}
    {finish : Bool → DataType → Except CompileError Probe} {entered : Bool} {reached : DataType}
    (arrived : route.arrival = .ok (entered, reached)) (crossed : Bool) :
    route.probe site finish crossed =
      (finish (crossed || entered) reached).map (route.toward site.operator.quantifier) := by
  -- A list on the way is remembered until the end, whether it stood before the route or on it.
  induction route generalizing crossed entered with
  | arrive type =>
    simp only [arrival, Except.ok.injEq, Prod.mk.injEq] at arrived
    obtain ⟨rfl, rfl⟩ := arrived
    cases ended : finish crossed type <;> simp [probe, toward, ended, Except.map]
  | fail cause => simp [arrival] at arrived
  | step taken next ih =>
    rw [probe, ih arrived crossed]
    cases finish (crossed || entered) reached <;> rfl
  | spread element rest next ih =>
    simp only [arrival, Outcome.map_eq_ok, Prod.mk.injEq, Prod.exists] at arrived
    obtain ⟨inner, type, arrived, rfl, rfl⟩ := arrived
    rw [probe, ih arrived true, Bool.or_true, Bool.true_or]
    cases finish true type <;> rfl

/-- A route that leads nowhere makes its probe a mismatch of the condition. -/
theorem probe_of_failure {route : Route} {site : Site}
    {finish : Bool → DataType → Except CompileError Probe} {cause : RouteError}
    (failed : route.arrival = .error cause) (crossed : Bool) :
    route.probe site finish crossed = .error (.mismatch site (.route cause)) := by
  -- Nothing before the failure keeps it from becoming the outcome.
  induction route generalizing crossed with
  | arrive type => simp [arrival] at failed
  | fail inner =>
    simp only [arrival, Except.error.injEq] at failed
    simp [probe, failed]
  | step taken next ih =>
    rw [probe, ih failed crossed]
    rfl
  | spread element rest next ih =>
    rw [probe, ih (Outcome.map_eq_error.1 failed) true]
    rfl

end Route

/-- After a step there is a value in focus, never a whole record. -/
theorem Focus.take_content (focus : Focus) (taken : Step) :
    focus.take taken = .value (focus.take taken).content := by
  cases taken <;> rfl

/-- A quantifier over the elements of several lists is one over the lists. -/
theorem Quantifier.over_flatMap (quantifier : Quantifier) (test : Value → Bool)
    (branch : Value → List Value) (values : List Value) :
    quantifier.over test (values.flatMap branch) =
      quantifier.over (fun value => quantifier.over test (branch value)) values := by
  -- Asking branch by branch or all leaves at once is the same to both quantifiers.
  cases quantifier with
  | all => simp [Quantifier.over, List.all_flatMap]
  | any => simp [Quantifier.over, List.any_flatMap]

/-- Along a route, the last probe is asked of every value at its end. -/
theorem Route.toward_holds (route : Route) (quantifier : Quantifier) (last : Probe)
    (value : Value) :
    (route.toward quantifier last).holds (.value value) =
      quantifier.over (fun reached => last.holds (.value reached)) (route.values value) := by
  -- Steps lead on from one value, and lists branch to what the quantifier joins again.
  induction route generalizing value with
  | arrive type => cases quantifier <;> simp [toward, values, Quantifier.over]
  | fail cause => cases quantifier <;> simp [toward, values, Quantifier.over]
  | step taken next ih =>
    rw [toward, Probe.holds, Focus.take_content, ih]
    rfl
  | spread element rest next ih =>
    simp only [toward, values, Probe.holds, ih]
    rw [Quantifier.over_flatMap]

end RecordFilter
