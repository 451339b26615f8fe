import RecordFilter.Proofs.Predicate.Straight
import RecordFilter.Proofs.Predicate.Whole
import RecordFilter.Proofs.Value.Standing

/-! Conditions that compare one value with a literal: their answers are those of one order. -/

namespace RecordFilter

namespace Value

/-- Values that have an order are equal when neither comes before the other. -/
theorem equal_of_compare? {left right : Value} {order : Ordering}
    (answered : left.compare? right = some order) : left.equal right = order.isEq := by
  rw [equal_eq_compare? (isScalar_of_compare? answered), answered]
  cases order <;> rfl

end Value

namespace Operator

/-- The operators that place a value beside a literal; denials of them are left out. -/
def comparisons : List Operator :=
  [.lessThan, .lessOrEqual, .equal, .greaterOrEqual, .greaterThan]

/-- The orders of a value beside a literal of which a comparison holds. -/
def outcomes? : Operator → Option (Ordering → Bool)
  | .lessThan => some Ordering.isLT
  | .lessOrEqual => some Ordering.isLE
  | .equal => some Ordering.isEq
  | .greaterOrEqual => some Ordering.isGE
  | .greaterThan => some Ordering.isGT
  | _ => none

variable {settings : Settings} {operator : Operator} {acceptable : Ordering → Bool}
  {type : DataType} {literal : Literal} {actual bound : Value} {order : Ordering}

/-- Every comparison holds of some orders. -/
theorem exists_outcomes (member : operator ∈ comparisons) :
    ∃ acceptable, operator.outcomes? = some acceptable := by
  -- Each of the five comparisons has a row in the table of outcomes.
  simp only [comparisons, List.mem_cons, List.not_mem_nil, or_false] at member
  rcases member with rfl | rfl | rfl | rfl | rfl <;> exact ⟨_, rfl⟩

/-- A comparison is no quantifier. -/
theorem plain_of_outcomes (compares : operator.outcomes? = some acceptable) :
    operator.isQuantifier = false := by
  cases operator <;> first | rfl | cases compares

/-- Where one value may be asked to be less than a literal, it may be compared with it in all ways. -/
theorem accepts_of_lessThan (compares : operator.outcomes? = some acceptable)
    (accepted : Operator.lessThan.Accepts settings type literal) :
    operator.Accepts settings type literal := by
  -- An ordering demands most, and equality does with part of it.
  cases operator with
  | lessThan | lessOrEqual | greaterThan | greaterOrEqual => exact accepted
  | equal => exact accepted.2.2
  | _ => cases compares

/-- A comparison holds of a value that has an order beside the literal when the order is one of its own. -/
theorem asks_of_order (compares : operator.outcomes? = some acceptable)
    (read : literal.coerce type = .ok bound) (answered : actual.compare? bound = some order) :
    operator.asks settings type literal actual = acceptable order := by
  -- Both ways of asking, by order and by equality, are read off the one outcome of the comparison.
  have ranked : ∀ acceptable, literal.ranks type acceptable actual = acceptable order := by
    intro acceptable
    simp [Literal.ranks, read, answered, Except.toOption]
  have equals : literal.equals type actual = order.isEq := by
    simp [Literal.equals, read, Except.toOption, Value.equal_of_compare? answered]
  cases operator <;> cases compares <;> first | exact ranked _ | exact equals

/-- No comparison holds of null beside a literal that stands for something else. -/
theorem asks_null (compares : operator.outcomes? = some acceptable)
    (read : literal.coerce type = .ok bound) (present : bound.isNull = false) :
    operator.asks settings type literal .null = false := by
  -- Null has no order with a bound that is present, and does not equal it.
  have ranked : ∀ acceptable, literal.ranks type acceptable .null = false := by
    intro acceptable
    simp [Literal.ranks, read, Except.toOption, Value.compare?]
  have equals : literal.equals type .null = false := by
    simp [Literal.equals, read, Except.toOption, Value.equal, present]
  cases operator <;> cases compares <;> first | exact ranked _ | exact equals

end Operator

namespace Filter

variable {settings : Settings} {schema : Schema} {path : String} {reached : DataType}

/-- The filter compiles against a schema, and its predicate holds of a record. -/
def Passes (settings : Settings) (schema : Schema) (filter : Filter) (record : Record) : Prop :=
  ∃ predicate, filter.compile settings schema = .ok predicate ∧ predicate.test record = true

/-- A filter passes where it makes sense and reads as true. -/
theorem passes_iff {filter : Filter} {record : Record} :
    filter.Passes settings schema record ↔ WellFormed settings schema.type filter ∧
      filter.reading settings schema.type (.record record.fields) = true := by
  -- To compile is to make sense, and the predicate answers as the filter reads.
  constructor
  · rintro ⟨predicate, compiled, passes⟩
    exact ⟨compiles_iff_wellFormed.1 ⟨predicate, compiled⟩,
      (test_eq_reading compiled record).symm.trans passes⟩
  · rintro ⟨formed, passes⟩
    obtain ⟨predicate, compiled⟩ := compiles_iff_wellFormed.2 formed
    exact ⟨predicate, compiled, (test_eq_reading compiled record).trans passes⟩

/-- The literal bounds what a path leads to: values there may be asked to be less than it. -/
structure Bounds (settings : Settings) (schema : Schema) (path : String) (reached : DataType)
    (literal : Literal) (bound : Value) : Prop where
  compiles : (condition path .lessThan (some literal) false).Compiles settings schema
  read : literal.coerce reached = .ok bound
  number : bound.isNaN = false

/-- On a record the comparisons with a literal answer as one order does that has no gaps. -/
structure Coherent (settings : Settings) (schema : Schema) (path : String) (literal : Literal)
    (record : Record) : Prop where
  one : ∃! operator, operator ∈ [Operator.lessThan, .equal, .greaterThan] ∧
    (condition path operator (some literal) false).Passes settings schema record
  atMost : (condition path .lessOrEqual (some literal) false).Passes settings schema record ↔
    (condition path .lessThan (some literal) false).Passes settings schema record ∨
      (condition path .equal (some literal) false).Passes settings schema record
  atLeast : (condition path .greaterOrEqual (some literal) false).Passes settings schema record ↔
    (condition path .greaterThan (some literal) false).Passes settings schema record ∨
      (condition path .equal (some literal) false).Passes settings schema record

/-- Where its path enters no list, an unnegated condition passes when what it asks there holds. -/
theorem passes_straight_iff {operator : Operator} (plain : operator.isQuantifier = false)
    (reaches : Path.Reaches path schema.type false reached) (single : reached.isList = false)
    {literal : Literal} {record : Record} :
    (condition path operator (some literal) false).Passes settings schema record ↔
      operator.Accepts settings reached literal ∧
        operator.asks settings reached literal
          (Path.endpoint path schema.type (.record record.fields)) = true := by
  -- Without a list on the way there is one leaf, the endpoint.
  rw [passes_iff, wellFormed_reaching_iff reaches, reading_straight plain reaches (fun _ => single),
    Bool.bne_false]
  exact and_congr_left fun _ => and_iff_right plain

/-- Where a literal may be asked to be more than a value, all comparisons take it. -/
theorem accepts_comparison (reaches : Path.Reaches path schema.type false reached)
    {literal : Literal} {operator : Operator} {acceptable : Ordering → Bool}
    (compares : operator.outcomes? = some acceptable)
    (compiled : (condition path .lessThan (some literal) false).Compiles settings schema) :
    operator.Accepts settings reached literal := by
  -- The path leads to one type only, beside which the literal was accepted.
  rw [compiles_iff_wellFormed, wellFormed_reaching_iff reaches] at compiled
  exact Operator.accepts_of_lessThan compares compiled.2

namespace Bounds

variable {literal : Literal} {bound : Value} {record : Record}
  (reaches : Path.Reaches path schema.type false reached)

include reaches

/-- A literal that bounds a value is not null. -/
theorem present (bounds : Bounds settings schema path reached literal bound) :
    bound.isNull = false := by
  -- Orderings refuse null, and nothing else stands for it.
  obtain ⟨-, given, -⟩ : Operator.lessThan.Accepts settings reached literal :=
    accepts_comparison reaches rfl bounds.compiles
  rw [(Value.coerce_conforms bounds.read).2]
  exact Literal.isNull_eq_false.2 given

variable (ordered : reached.isOrdered = true)

include ordered

/-- No comparison passes where there is no value. -/
theorem not_passes (bounds : Bounds settings schema path reached literal bound)
    (absent : (Path.endpoint path schema.type (.record record.fields)).isNull = true)
    {operator : Operator} (member : operator ∈ Operator.comparisons) :
    ¬(condition path operator (some literal) false).Passes settings schema record := by
  obtain ⟨acceptable, compares⟩ := Operator.exists_outcomes member
  rw [passes_straight_iff (Operator.plain_of_outcomes compares) reaches
    (DataType.isList_of_ordered ordered)]
  intro given
  -- Null has no order beside a literal that is something else.
  rw [Value.eq_null absent,
    Operator.asks_null compares bounds.read (bounds.present reaches)] at given
  exact Bool.false_ne_true given.2

variable (conforms : Value.Conforms schema.type (.record record.fields))
  (number : (Path.endpoint path schema.type (.record record.fields)).isNaN = false)

include conforms number

/-- Where there is a value it has one order beside the literal, and that decides all comparisons. -/
theorem exists_order
    (present : (Path.endpoint path schema.type (.record record.fields)).isNull = false)
    (bounds : Bounds settings schema path reached literal bound) :
    ∃ order,
      (Path.endpoint path schema.type (.record record.fields)).compare? bound = some order ∧
      ∀ operator acceptable, Operator.outcomes? operator = some acceptable →
        ((condition path operator (some literal) false).Passes settings schema record ↔
          acceptable order = true) := by
  -- The value conforms to an ordered type, and neither it nor the bound is without a place.
  have beside := (Path.endpoint_conforms reaches conforms).compare?_isSome ordered
    (Value.coerce_conforms bounds.read).1 present (bounds.present reaches) number bounds.number
  obtain ⟨order, answered⟩ := Option.isSome_iff_exists.1 beside
  refine ⟨order, answered, fun operator acceptable compares => ?_⟩
  rw [passes_straight_iff (Operator.plain_of_outcomes compares) reaches
    (DataType.isList_of_ordered ordered), Operator.asks_of_order compares bounds.read answered]
  exact and_iff_right (accepts_comparison reaches compares bounds.compiles)

/-- The comparisons with a literal answer as one order does wherever there is a value. -/
theorem coherent
    (present : (Path.endpoint path schema.type (.record record.fields)).isNull = false)
    (bounds : Bounds settings schema path reached literal bound) :
    Coherent settings schema path literal record := by
  obtain ⟨order, -, passes⟩ := bounds.exists_order reaches ordered conforms number present
  have less := passes .lessThan _ rfl
  have same := passes .equal _ rfl
  have more := passes .greaterThan _ rfl
  -- Each of the three orders is the one that one of the strict comparisons and equality is about.
  refine ⟨?_, ?_, ?_⟩
  · cases order with
    | lt => exact ⟨.lessThan, by simp [less], by simp [same, more]⟩
    | eq => exact ⟨.equal, by simp [same], by simp [less, more]⟩
    | gt => exact ⟨.greaterThan, by simp [more], by simp [less, same]⟩
  · rw [passes .lessOrEqual _ rfl, less, same]
    cases order <;> decide
  · rw [passes .greaterOrEqual _ rfl, more, same]
    cases order <;> decide

/-- Of two bounds in order, what is above the upper one is above the lower, and so downwards. -/
theorem monotone {lower upper : Literal} {low high : Value}
    (below : Bounds settings schema path reached lower low)
    (above : Bounds settings schema path reached upper high)
    (atMost : (low.compare? high).any Ordering.isLE = true) :
    ((condition path .greaterThan (some upper) false).Passes settings schema record →
        (condition path .greaterThan (some lower) false).Passes settings schema record) ∧
      ((condition path .lessThan (some lower) false).Passes settings schema record →
        (condition path .lessThan (some upper) false).Passes settings schema record) := by
  cases absent : (Path.endpoint path schema.type (.record record.fields)).isNull with
  | true =>
    -- Without a value neither premise holds.
    have misses : ∀ operator ∈ Operator.comparisons, ∀ literal bound,
        Bounds settings schema path reached literal bound →
          ¬(condition path operator (some literal) false).Passes settings schema record :=
      fun _ member _ _ bounds => bounds.not_passes reaches ordered absent member
    exact ⟨fun passes => absurd passes (misses _ (by decide) _ _ above),
      fun passes => absurd passes (misses _ (by decide) _ _ below)⟩
  | false =>
    obtain ⟨between, answered, atMost⟩ := (Option.any_eq_true _ _).1 atMost
    obtain ⟨first, besideLow, decides⟩ :=
      below.exists_order reaches ordered conforms number absent
    obtain ⟨second, besideHigh, decidesHigh⟩ :=
      above.exists_order reaches ordered conforms number absent
    rw [decides .greaterThan _ rfl, decidesHigh .greaterThan _ rfl, decides .lessThan _ rfl,
      decidesHigh .lessThan _ rfl, Ordering.isGT_iff_eq_gt, Ordering.isGT_iff_eq_gt,
      Ordering.isLT_iff_eq_lt, Ordering.isLT_iff_eq_lt]
    constructor
    · -- From the lower bound the way leads over the upper one to the value.
      rintro rfl
      have onward : high.compare? (Path.endpoint path schema.type (.record record.fields)) =
          some .lt := by
        rw [Value.compare?_swap, besideHigh, Option.map_some, Ordering.swap_gt]
      have across : low.compare? (Path.endpoint path schema.type (.record record.fields)) =
          some first.swap := by
        rw [Value.compare?_swap, besideLow, Option.map_some]
      have chained := Value.compare?_chained answered onward across atMost rfl
      simpa using chained.strict (.inr rfl)
    · -- From the value it leads over the lower bound to the upper one.
      rintro rfl
      exact (Value.compare?_chained besideLow answered besideHigh rfl atMost).strict (.inl rfl)

end Bounds

/-- Where a path enters no list and ends at ordered values, the comparisons agree with one order on them. -/
theorem compile_ordered (reaches : Path.Reaches path schema.type false reached)
    (ordered : reached.isOrdered = true) :
    (∀ literal, (condition path .lessThan (some literal) false).Compiles settings schema →
        (∃ bound, literal.coerce reached = .ok bound) ∧ ∀ operator ∈ Operator.comparisons,
          (condition path operator (some literal) false).Compiles settings schema) ∧
      ∀ record : Record, Value.Conforms schema.type (.record record.fields) →
        (Path.endpoint path schema.type (.record record.fields)).isNaN = false →
        (∀ literal bound, Bounds settings schema path reached literal bound →
          ((Path.endpoint path schema.type (.record record.fields)).isNull = true →
            ∀ operator ∈ Operator.comparisons,
              ¬(condition path operator (some literal) false).Passes settings schema record) ∧
          ((Path.endpoint path schema.type (.record record.fields)).isNull = false →
            Coherent settings schema path literal record)) ∧
        ∀ lower upper low high, Bounds settings schema path reached lower low →
          Bounds settings schema path reached upper high →
          (low.compare? high).any Ordering.isLE = true →
          ((condition path .greaterThan (some upper) false).Passes settings schema record →
            (condition path .greaterThan (some lower) false).Passes settings schema record) ∧
          ((condition path .lessThan (some lower) false).Passes settings schema record →
            (condition path .lessThan (some upper) false).Passes settings schema record) := by
  refine ⟨fun literal compiled => ?_, fun record conforms number => ⟨?_, ?_⟩⟩
  · have accepted : ∀ operator ∈ Operator.comparisons,
        (condition path operator (some literal) false).Compiles settings schema := by
      intro operator member
      obtain ⟨acceptable, compares⟩ := Operator.exists_outcomes member
      rw [compiles_iff_wellFormed, wellFormed_reaching_iff reaches]
      exact ⟨Operator.plain_of_outcomes compares, accepts_comparison reaches compares compiled⟩
    -- What is compared with has a value beside the type itself, which has no lists around it.
    obtain ⟨-, -, suits⟩ : Operator.lessThan.Accepts settings reached literal :=
      accepts_comparison reaches rfl compiled
    rw [DataType.core_of_single (DataType.isList_of_ordered ordered)] at suits
    exact ⟨Literal.exists_coerce.2 suits, accepted⟩
  · exact fun literal bound bounds =>
      ⟨fun absent _ member => bounds.not_passes reaches ordered absent member,
        fun present => bounds.coherent reaches ordered conforms number present⟩
  · exact fun lower upper low high below above atMost =>
      below.monotone reaches ordered conforms number above atMost

/-- The quantity of the second item beside a number, and above what is below all numbers. -/
theorem compile_ordered_quantities :
    let schema : Schema := ⟨"Order", [("items", .list (.record "Item" [("quantity", .int)]))]⟩
    let record : Record := ⟨[("items", .list [.null, .record [("quantity", .int 5)]])]⟩
    Coherent .standard schema "items[1].Quantity" (.int 3) record ∧
      (condition "items[1].Quantity" .greaterThan (some (.float (.infinite true))) false).Passes
        .standard schema record := by
  -- The path indexes its way to one number, and minus infinity lies below every bound.
  intro schema record
  have reaches : Path.Reaches "items[1].Quantity" schema.type false .int := by
    refine ⟨_, rfl, .item rfl rfl ?_⟩
    exact .field rfl rfl .done
  have item : Value.Conforms (.record "Item" [("quantity", .int)])
      (.record [("quantity", .int 5)]) := by
    refine .of_declared fun field member value held => ?_
    obtain rfl := List.mem_singleton.1 member
    cases held
    exact .int
  have conforms : Value.Conforms schema.type (.record record.fields) := by
    refine .of_declared fun field member value held => ?_
    obtain rfl := List.mem_singleton.1 member
    cases held
    exact .list (List.forall_mem_cons.2 ⟨.null, List.forall_mem_singleton.2 item⟩)
  obtain ⟨-, answers⟩ := compile_ordered reaches rfl
  obtain ⟨coherent, monotone⟩ := answers record conforms (by decide +kernel)
  have three : Bounds .standard schema "items[1].Quantity" .int (.int 3) (.int 3) :=
    ⟨⟨_, rfl⟩, rfl, rfl⟩
  have endless : Bounds .standard schema "items[1].Quantity" .int (.float (.infinite true))
      (.float (.infinite true)) := ⟨⟨_, rfl⟩, rfl, rfl⟩
  have more : (condition "items[1].Quantity" .greaterThan (some (.int 3)) false).Passes .standard
      schema record :=
    ⟨_, rfl, by decide +kernel⟩
  exact ⟨(coherent _ _ three).2 (by decide +kernel), (monotone _ _ _ _ endless three rfl).1 more⟩

end Filter

end RecordFilter
