import Mathlib.Logic.Relation
import RecordFilter.Predicate.Basic
import RecordFilter.Proofs.Fields
import RecordFilter.Proofs.Predicate.Planning

/-! Growing schemas: fields of new names change neither which filters compile nor what they compile to. -/

namespace RecordFilter

/-- Fields of new names are added to one of the record types in the type, or to none. -/
inductive DataType.Grows : DataType → DataType → Prop
  | same {type : DataType} : Grows type type
  | fields {name : String} {declared others : List (String × DataType)}
      (extended : Fields.Extended declared others) :
      Grows (.record name declared) (.record name others)
  -- The record type may be that of a field, or of what a list holds.
  | field {name field : String} {before after : List (String × DataType)} {type larger : DataType}
      (below : Grows type larger) :
      Grows (.record name (before ++ (field, type) :: after))
        (.record name (before ++ (field, larger) :: after))
  | element {element larger : DataType} (below : Grows element larger) :
      Grows (.list element) (.list larger)

namespace DataType.Grows

variable {type larger element : DataType}

/-- A list type grows to a list type of what grows. -/
theorem list_cases (grows : Grows (.list element) larger) :
    ∃ more, larger = .list more ∧ Grows element more := by
  -- Fields are added to records alone, so a list only grows in its element.
  cases grows with
  | same => exact ⟨element, rfl, .same⟩
  | element below => exact ⟨_, rfl, below⟩

/-- A record type grows to one in which every lookup finds the same field, of a type that may have grown. -/
theorem record_cases {name : String} {declared : List (String × DataType)}
    (grows : Grows (.record name declared) larger) :
    ∃ extended, larger = .record name extended ∧
      ∀ sought field type, Fields.lookup? sought declared = some (field, type) →
        ∃ more, Fields.lookup? sought extended = some (field, more) ∧ Grows type more := by
  -- What was found under any spelling is found again, itself grown or as it was.
  cases grows with
  | same => exact ⟨declared, rfl, fun _ _ type found => ⟨type, found, .same⟩⟩
  | fields extended => exact ⟨_, rfl, fun _ _ type found => ⟨type, extended.lookup? found, .same⟩⟩
  | @field _ spelling before after inner more below =>
    refine ⟨_, rfl, fun sought field type found => ?_⟩
    -- One field was replaced in place by its grown type, and no other lookup sees it.
    rcases Fields.lookup?_replaced sought before after inner more with same | ⟨here, there⟩
    · exact ⟨type, same ▸ found, .same⟩
    · obtain ⟨rfl, rfl⟩ := Prod.mk.inj (Option.some.inj (here.symm.trans found))
      exact ⟨more, there, below⟩

/-- What is left of a type without its layers of lists grows with it. -/
theorem core (grows : Grows type larger) : Grows type.core larger.core := by
  -- Growing below a list grows the core; anywhere else the core is the type itself.
  induction grows with
  | same => exact .same
  | fields extended => exact .fields extended
  | field below ih => exact .field below
  | element below ih => exact ih

/-- The values that an operator tests are of a type that grows with the one reached. -/
theorem asked (grows : Grows type larger) (operator : Operator) :
    Grows (type.asked operator) (larger.asked operator) := by
  -- An operator asks either about the type or about its core.
  unfold DataType.asked
  split
  · exact grows
  · exact grows.core

/-- Growing adds no layer of lists that a test would have to enter. -/
theorem testing_eq (grows : Grows type larger) (test : Test) :
    larger.testing test = type.testing test := by
  -- Where a test goes depends on the list structure alone, which growing keeps.
  unfold DataType.testing
  split
  · rfl
  · induction grows with
    | element below ih => simp only [DataType.somewhere, ih]
    | _ => rfl

/-- A body is handed values of a type that grows with the one reached, by the same probe. -/
theorem bodyType? (grows : Grows type larger) {entered : Bool} {inner : DataType}
    (handed : type.bodyType? entered = some inner) :
    (∃ more, larger.bodyType? entered = some more ∧ Grows inner more) ∧
      ∀ quantifier plan, larger.handing quantifier plan = type.handing quantifier plan := by
  -- The body is handed the item type of a list, or the type itself once a list is entered.
  cases grows with
  | same => exact ⟨⟨inner, handed, .same⟩, fun _ _ => rfl⟩
  | element below =>
    obtain rfl := Option.some.inj handed
    exact ⟨⟨_, rfl, below⟩, fun _ _ => rfl⟩
  | fields extended =>
    simp only [DataType.bodyType?, Option.ite_none_right_eq_some, Option.some.injEq] at handed ⊢
    obtain ⟨rfl, rfl⟩ := handed
    exact ⟨⟨_, ⟨rfl, rfl⟩, .fields extended⟩, fun _ _ => rfl⟩
  | field below =>
    simp only [DataType.bodyType?, Option.ite_none_right_eq_some, Option.some.injEq] at handed ⊢
    obtain ⟨rfl, rfl⟩ := handed
    exact ⟨⟨_, ⟨rfl, rfl⟩, .field below⟩, fun _ _ => rfl⟩

/-- Whatever a literal stands for beside a type it stands for beside a larger one. -/
theorem coerce (grows : Grows type larger) {literal : Literal} {value : Value}
    (read : literal.coerce type = .ok value) : literal.coerce larger = .ok value := by
  -- Beside records and lists only null stands for anything.
  cases grows with
  | same => exact read
  | _ =>
    cases literal <;> cases read
    rfl

/-- Growing makes no type one of texts, or one that has an order. -/
theorem kinds (grows : Grows type larger) :
    larger.isText = type.isText ∧ larger.isOrdered = type.isOrdered := by
  cases grows <;> exact ⟨rfl, rfl⟩

/-- The operand that a literal makes beside a type is the one that it makes beside a larger one. -/
theorem built (grows : Grows type larger) {settings : Settings} {demand : Demand}
    {literal : Literal} {operand : Operand} (made : Operand.Built settings type demand literal operand) :
    Operand.Built settings larger demand literal operand := by
  obtain ⟨isText, isOrdered⟩ := grows.kinds
  cases made with
  | nothing => exact .nothing
  | @candidates items values read =>
    refine .candidates ((List.map_congr_left fun item member => ?_).trans read)
    -- Each candidate stands for some value, since all of them do.
    have stands : item.coerce type ∈ values.map Except.ok := by
      rw [← read]
      exact List.mem_map_of_mem member
    obtain ⟨value, -, same⟩ := List.mem_map.1 stands
    rw [← same, grows.coerce same.symm]
  | rank ordered present read => exact .rank (isOrdered.trans ordered) present (grows.coerce read)
  | pattern text compiled => exact .pattern (isText.trans text) compiled
  | text text => exact .text (isText.trans text)
  | value read => exact .value (grows.coerce read)

/-- Where segments lead they lead on from a larger type, by the same steps and through the same lists. -/
theorem leads (grows : Grows type larger) {segments : List Segment} {reached : DataType}
    {entered : Bool} (leads : Path.Leads segments type entered reached) :
    ∃ more, Path.Leads segments larger entered more ∧ Grows reached more ∧
      ∀ quantifier last, (Route.ofSegments segments larger).toward quantifier last =
        (Route.ofSegments segments type).toward quantifier last := by
  -- The path is followed step by step; every step taken before is found again after growing.
  induction leads generalizing larger with
  | done => exact ⟨larger, .done, grows, fun _ _ => rfl⟩
  | enter further ih =>
    obtain ⟨element, rfl, below⟩ := grows.list_cases
    obtain ⟨more, leads, reaches, same⟩ := ih below
    refine ⟨more, .enter leads, reaches, fun quantifier last => ?_⟩
    rw [Route.ofSegments_list, Route.ofSegments_list, Route.toward, Route.toward, same]
  | field plain found further ih =>
    obtain ⟨extended, rfl, lookups⟩ := grows.record_cases
    obtain ⟨field, foundMore, below⟩ := lookups _ _ _ found
    obtain ⟨more, leads, reaches, same⟩ := ih below
    refine ⟨more, .field plain foundMore leads, reaches, fun quantifier last => ?_⟩
    rw [Route.ofSegments_field plain found, Route.ofSegments_field plain foundMore, Route.toward,
      Route.toward, same]
  | item indexed found further ih =>
    obtain ⟨extended, rfl, lookups⟩ := grows.record_cases
    obtain ⟨field, foundMore, below⟩ := lookups _ _ _ found
    obtain ⟨element, rfl, belowList⟩ := below.list_cases
    obtain ⟨more, leads, reaches, same⟩ := ih belowList
    refine ⟨more, .item indexed foundMore leads, reaches, fun quantifier last => ?_⟩
    rw [Route.ofSegments_item indexed found, Route.ofSegments_item indexed foundMore, Route.toward,
      Route.toward, Route.toward, Route.toward, same]

end DataType.Grows

namespace Filter

variable {settings : Settings}

mutual
/-- The plan of a filter for a type is its plan for a larger one. -/
theorem plan_grows (filter : Filter) {type larger : DataType} {location : Location} {plan : Plan}
    (grows : type.Grows larger) (planned : filter.plan settings type location = .ok plan) :
    filter.plan settings larger location = .ok plan := by
  -- Each node's plan is taken apart and put together again over the larger type, from the same
  -- spellings.
  cases filter with
  | condition path operator value negated =>
    obtain ⟨plain, read, entered, reached, operand, good, leads, built, rfl⟩ :=
      plan_condition_eq_ok.1 planned
    obtain ⟨more, leadsMore, reaches, same⟩ := grows.leads leads
    refine plan_condition_eq_ok.2 ⟨plain, read, entered, more, operand, good, leadsMore,
      (reaches.asked operator).built built, ?_⟩
    rw [reaches.testing_eq, Path.route, Path.route, same]
  | nested path operator body negated =>
    obtain ⟨quantifies, read, entered, reached, inner, below, good, leads, handed, plannedBody,
      rfl⟩ := plan_nested_eq_ok.1 planned
    obtain ⟨more, leadsMore, reaches, same⟩ := grows.leads leads
    obtain ⟨⟨innerMore, handedMore, handsMore⟩, handing⟩ := reaches.bodyType? handed
    refine plan_nested_eq_ok.2 ⟨quantifies, read, entered, more, innerMore, below, good, leadsMore,
      handedMore, plan_grows body handsMore plannedBody, ?_⟩
    rw [handing, Path.route, Path.route, same]
  | group combinator negated children =>
    obtain ⟨allowed, below, plannedBelow, rfl⟩ := plan_group_eq_ok.1 planned
    exact plan_group_eq_ok.2 ⟨allowed, below, plans_grow children grows plannedBelow, rfl⟩
/-- The plans of several filters for a type are their plans for a larger one. -/
theorem plans_grow (children : List Filter) {type larger : DataType} {location : Location}
    {index : Nat} {below : List Plan} (grows : type.Grows larger)
    (planned : plans settings type location index children = .ok below) :
    plans settings larger location index children = .ok below := by
  -- Mutual with `plan_grows`: each child keeps its plan.
  cases children with
  | nil => exact planned
  | cons child rest =>
    obtain ⟨first, others, plannedFirst, plannedRest, rfl⟩ := plans_cons_eq_ok.1 planned
    exact plans_cons_eq_ok.2 ⟨first, others, plan_grows child grows plannedFirst,
      plans_grow rest grows plannedRest, rfl⟩
end

/--
A filter that compiles against a schema compiles to the same plan once the schema has grown.

So it answers as before on every value, also on one that has the new fields.
-/
theorem compile_grown {schema grown : Schema} {filter : Filter} {predicate : Predicate}
    (grows : Relation.ReflTransGen DataType.Grows schema.type grown.type)
    (compiled : filter.compile settings schema = .ok predicate) :
    ∃ again, filter.compile settings grown = .ok again ∧ again.plan = predicate.plan ∧
      ∀ value, again.testValue value = predicate.testValue value := by
  -- One growth keeps the plan, so a chain of them does.
  obtain ⟨plan, planned, rfl⟩ := Outcome.map_eq_ok.1 compiled
  have throughout : ∀ larger, Relation.ReflTransGen DataType.Grows schema.type larger →
      filter.plan settings larger .root = .ok plan := by
    intro larger grows
    induction grows with
    | refl => exact planned
    | tail _ grows ih => exact plan_grows filter grows ih
  exact ⟨⟨plan, grown.name⟩, Outcome.map_eq_ok.2 ⟨plan, throughout _ grows, rfl⟩, rfl, fun _ => rfl⟩

/-- Lines that get a quantity, in two spellings of its name, while orders get a region before all else. -/
theorem compile_grown_order :
    let schema : Schema :=
      -- A field is added in front of the order's own and two in its lines.
      ⟨"Order", [("id", .int), ("lines", .list (.record "Line" [("sku", .string)]))]⟩
    let grown : Schema := ⟨"Order", [("Region", .string), ("id", .int),
      ("lines", .list (.record "Line" [("qty", .int), ("sku", .string), ("Qty", .float)]))]⟩
    let filter : Filter := group .and true [condition "ID" .isIn (some (.list [.int 1])) false,
      nested "Lines" .any (condition "SKU" .startsWith (some (.string "a")) false) false]
    ∃ predicate : Predicate, filter.compile .standard schema = .ok predicate ∧
      ∃ again, filter.compile .standard grown = .ok again ∧
        ∀ value, again.testValue value = predicate.testValue value := by
  intro schema grown filter
  have orders : Fields.Extended schema.fields [("Region", .string), ("id", .int),
      ("lines", .list (.record "Line" [("sku", .string)]))] := by
    simp [schema, Fields.Extended, Text.agree]
  have lines : Fields.Extended [("sku", DataType.string)]
      [("qty", .int), ("sku", .string), ("Qty", .float)] := by
    simp [Fields.Extended, Text.agree]
  have inside : DataType.Grows (.record "Order" [("Region", .string), ("id", .int),
      ("lines", .list (.record "Line" [("sku", .string)]))]) grown.type :=
    @DataType.Grows.field "Order" "lines" [("Region", .string), ("id", .int)] [] _ _
      (.element (.fields lines))
  refine Exists.imp (fun predicate compiled => ⟨compiled, ?_⟩) ⟨_, rfl⟩
  obtain ⟨again, compiledAgain, -, agree⟩ :=
    compile_grown (.tail (.single (.fields orders)) inside) compiled
  exact ⟨again, compiledAgain, agree⟩

end Filter

end RecordFilter
