import RecordFilter.Proofs.Predicate.Reading

/-! Compiled plans answer as their filters read: on every value, whether or not it fits the types. -/

namespace RecordFilter

namespace Focus

/-- The elements of a value in focus are its entries. -/
theorem elements_value (held : Value) : (Focus.value held).elements = held.entries := by
  cases held <;> rfl

/-- A step to a field brings the member of that name into focus. -/
theorem take_field (name : String) (held : Value) :
    ((Focus.value held).take (.field name)).content = held.member name := by
  cases held <;> rfl

/-- A step to an item brings the entry at that place into focus. -/
theorem take_item (place : UInt64) (held : Value) :
    ((Focus.value held).take (.item place)).content = held.entry place := by
  cases held <;> rfl

end Focus

namespace Operator

/-- One operator asks all values, and the others some value. -/
theorem quantifier_over (operator : Operator) (test : Value → Bool) (values : List Value) :
    operator.quantifier.over test values =
      match operator with
      | .all => values.all test
      | _ => values.any test := by
  cases operator <;> rfl

/-- Asking the leaves of several values is asking each value about its leaves. -/
theorem among_flatMap (operator : Operator) (test : Leaf → Bool) (branch : Value → List Leaf)
    (values : List Value) :
    operator.among test (values.flatMap branch) =
      operator.quantifier.over (fun value => operator.among test (branch value)) values := by
  -- Both ways of asking pass over empty branches.
  rw [quantifier_over]
  unfold among
  split <;> simp [List.all_flatMap, List.any_flatMap]

/-- Operators other than quantifiers ask for some leaf to pass. -/
theorem among_eq_any {operator : Operator} (plain : operator.isQuantifier = false)
    (test : Leaf → Bool) (leaves : List Leaf) : operator.among test leaves = leaves.any test := by
  cases operator <;> first | rfl | simp [isQuantifier] at plain

/-- An operator that compares goes through every layer of lists to what they hold. -/
theorem ends_eq_throughout {operator : Operator} (plain : operator.isQuantifier = false)
    (compares : operator.isNullCheck = false) (type : DataType) (value : Value) :
    operator.ends type value = type.throughout (fun core value => [⟨core, value⟩]) value := by
  -- Off the quantifiers and the null checks, every demand ends in the items of the list.
  cases demanded : operator.demand <;>
    simp_all [isNullCheck_eq, isQuantifier_eq, ends]

/-- Nothing but the answer counts for a single leaf. -/
theorem among_singleton (operator : Operator) (test : Leaf → Bool) (leaf : Leaf) :
    operator.among test [leaf] = test leaf := by
  -- "Every leaf" and "some leaf" are the same of one leaf.
  unfold among
  split <;> simp

end Operator

/-- The leaves of a path are those of the values at the end of its route. -/
theorem Path.Leads.leaves_eq {segments : List Segment} {type reached : DataType} {entered : Bool}
    (leads : Path.Leads segments type entered reached) (operator : Operator) (value : Value) :
    operator.leaves segments type value =
      ((Route.ofSegments segments type).values value).flatMap (operator.ends reached) := by
  -- Lists on the way are flattened on both sides, and steps lead to the same member or entry.
  induction leads generalizing value with
  | done => simp [Operator.leaves, Route.ofSegments, Route.values]
  | enter further ih =>
    rw [Route.ofSegments_list, Route.values, Focus.elements_value, List.flatMap_assoc]
    exact congrArg (value.entries.flatMap ·) (funext ih)
  | field plain found further ih =>
    rw [Route.ofSegments_field plain found, Route.values, Focus.take_field, ← ih]
    simp only [Operator.leaves, DataType.throughout, Segment.leaves, plain, found]
  | item indexed found further ih =>
    rw [Route.ofSegments_item indexed found, Route.values, Route.values, Focus.take_field,
      Focus.take_item, ← ih]
    simp only [Operator.leaves, DataType.throughout, Segment.leaves, indexed, found]

namespace Literal

/-- Looking among the values of candidates is looking among the candidates. -/
theorem any_equal_of_read {type : DataType} {items : List Literal} {values : List Value}
    (read : items.map (coerce type) = values.map .ok) (actual : Value) :
    values.any actual.equal = items.any fun item => item.equals type actual := by
  -- Each candidate is equal to the same values as the literal that it was read from.
  induction items generalizing values with
  | nil =>
    simp only [List.map_nil, List.nil_eq, List.map_eq_nil_iff] at read
    simp [read]
  | cons item rest ih =>
    cases values with
    | nil => simp at read
    | cons value values =>
      simp only [List.map_cons, List.cons.injEq] at read
      simp [ih read.2, equals, read.1, Except.toOption]

end Literal

namespace Relation

variable {settings : Settings} {type : DataType} {literal : Literal}

/-- A value equals an operand when it equals the literal that the operand was read from. -/
theorem equal_of_read {expected : Value} (read : literal.coerce type = .ok expected)
    (actual : Value) : equal actual (.value expected) = literal.equals type actual := by
  simp [equal, Operand.value?, Literal.equals, read, Except.toOption]

/-- A value is ordered beside an operand as beside the literal that it was read from. -/
theorem ordered_of_read {bound : Value} (read : literal.coerce type = .ok bound)
    (acceptable : Ordering → Bool) (actual : Value) :
    ordered acceptable actual (.value bound) = literal.ranks type acceptable actual := by
  simp [ordered, Operand.value?, Literal.ranks, read, Except.toOption]

/-- A pattern that compiles is the one that the literal writes. -/
theorem patterned_of_compiled {text : String} {pattern : Pattern}
    (compiled : Pattern.compile? settings.patternLimit.toNat text = some pattern)
    (actual : Value) :
    patterned actual (.pattern pattern) = (Literal.string text).occurs settings actual := by
  -- The plan holds the compiled pattern; the reading compiles it again and gets the same one.
  simp only [patterned, Literal.occurs, Literal.compares, Literal.text?]
  cases actual.text? with
  | none => rfl
  | some written => simp [compiled]

end Relation

/-- The test of a compiled condition asks what its operator asks beside the literal. -/
theorem Operand.Built.test_holds {settings : Settings} {type : DataType} {operator : Operator}
    {literal : Literal} {operand : Operand}
    (built : Built settings type operator.demand literal operand) (actual : Value) :
    (⟨operator, operand⟩ : Test).holds actual = operator.asks settings type literal actual := by
  -- The demand of each operator leaves one form of operand, on which its relation is the question.
  cases operator with
  | isNull | notNull =>
    cases built
    rfl
  | isIn =>
    cases built with
    | candidates read => exact Literal.any_equal_of_read read actual
  | notIn =>
    cases built with
    | candidates read => exact congrArg not (Literal.any_equal_of_read read actual)
  | greaterThan | greaterOrEqual | lessThan | lessOrEqual =>
    cases built with
    | rank _ _ read => exact Relation.ordered_of_read read _ actual
  | matchesPattern =>
    cases built with
    | pattern _ compiled => exact Relation.patterned_of_compiled compiled actual
  | doesNotMatchPattern =>
    cases built with
    | pattern _ compiled => exact congrArg not (Relation.patterned_of_compiled compiled actual)
  | startsWith | endsWith | contains | doesNotStartWith | doesNotEndWith | doesNotContain =>
    cases built
    rfl
  | equal =>
    cases built with
    | value read => exact Relation.equal_of_read read actual
  | notEqual =>
    cases built with
    | value read => exact congrArg not (Relation.equal_of_read read actual)
  | all | any => cases built

namespace DataType

/-- Looking somewhere in layers of lists is looking at some leaf throughout them. -/
theorem somewhere_holds {last : Probe} {type : DataType} {ask : Leaf → Bool}
    (agree : ∀ value, last.holds (.value value) = ask ⟨type.core, value⟩) (value : Value) :
    (type.somewhere last).holds (.value value) =
      (type.throughout (fun core value => [⟨core, value⟩]) value).any ask := by
  -- The layers of the type are those of the lists, so the induction is on the type.
  induction type using Route.within.induct generalizing value with
  | case1 element ih =>
    simp only [somewhere, Probe.holds, Quantifier.over, Focus.elements_value, throughout,
      List.any_flatMap]
    exact congrArg (value.entries.any ·) (funext (ih agree))
  | case2 type scalar =>
    cases type with
    | list element => exact absurd rfl (scalar element)
    | _ => simpa [somewhere, throughout, core] using agree value

/-- The test at the end of a path asks about the leaves there. -/
theorem testing_holds {settings : Settings} {type : DataType} {operator : Operator}
    {literal : Literal} {operand : Operand}
    (built : Operand.Built settings (type.asked operator) operator.demand literal operand)
    (plain : operator.isQuantifier = false) (value : Value) :
    (type.testing ⟨operator, operand⟩).holds (.value value) =
      operator.among (fun leaf => operator.asks settings leaf.type literal leaf.value)
        (operator.ends type value) := by
  -- A null check asks about one leaf, and every other test looks for one that passes.
  unfold testing
  cases check : operator.isNullCheck with
  | true =>
    have demanded : operator.demand = .nothing := by
      simpa [Operator.isNullCheck_eq] using check
    simpa [asked, check, Operator.ends, demanded, Operator.among_singleton, Probe.holds,
      Focus.content] using built.test_holds value
  | false =>
    simp only [asked, check, Bool.false_eq_true, if_false] at built
    rw [Operator.ends_eq_throughout plain check, Operator.among_eq_any plain]
    refine somewhere_holds (fun value => ?_) value
    simpa [Probe.holds, Focus.content] using built.test_holds value

/-- Handing values to a sub-filter is asking it about the leaves of a quantifier. -/
theorem handing_holds {operator : Operator} {plan : Plan} {type inner : DataType}
    {entered : Bool} (ask : Leaf → Bool) (quantifies : operator.isQuantifier = true)
    (found : type.bodyType? entered = some inner)
    (agree : ∀ value, plan.holds (.value value) = ask ⟨inner, value⟩) (value : Value) :
    (type.handing operator.quantifier plan).holds (.value value) =
      operator.among ask (operator.ends type value) := by
  -- A list is opened once, and anything else is handed over as it is.
  have demanded : operator.demand = .body := by
    simpa [Operator.isQuantifier_eq] using quantifies
  cases type with
  | list element =>
    simp only [bodyType?, Option.some.injEq] at found
    subst found
    -- One layer of the list is opened by the quantifier of the operator itself.
    cases operator <;> simp [Operator.demand] at demanded <;>
      simp [handing, Probe.holds, Quantifier.over, Operator.quantifier, Operator.among,
        Operator.ends, Operator.demand, Focus.elements_value, agree, Function.comp_def]
  | _ =>
    simp only [bodyType?, Option.ite_none_right_eq_some, Option.some.injEq] at found
    obtain ⟨rfl, rfl⟩ := found
    simp [handing, Probe.holds, Operator.ends, demanded, Operator.among_singleton, agree]

end DataType

namespace Filter

variable {settings : Settings}

mutual
/-- The plan of a filter answers on every value as the filter reads. -/
theorem plan_holds (filter : Filter) {type : DataType} {location : Location} {plan : Plan}
    (planned : filter.plan settings type location = .ok plan) (value : Value) :
    plan.holds (.value value) = filter.reading settings type value := by
  -- Both answers are asked of the values at the end of the route, and then of their leaves.
  cases filter with
  | condition path operator literal negated =>
    obtain ⟨plain, read, entered, reached, operand, good, leads, built, rfl⟩ :=
      plan_condition_eq_ok.1 planned
    simp only [Plan.holds, reading, Operator.leavesAt, good, leads.leaves_eq, Path.route,
      Route.toward_holds, Operator.among_flatMap, DataType.testing_holds built plain]
  | nested path operator body negated =>
    obtain ⟨quantifies, read, entered, reached, inner, below, good, leads, found, plannedBody,
      rfl⟩ := plan_nested_eq_ok.1 planned
    have agree : ∀ value, below.holds (.value value) = body.reading settings inner value :=
      plan_holds body plannedBody
    simp only [Plan.holds, reading, Operator.leavesAt, good, leads.leaves_eq, Path.route,
      Route.toward_holds, Operator.among_flatMap]
    simp only [DataType.handing_holds (fun leaf => body.reading settings leaf.type leaf.value)
      quantifies found agree]
  | group combinator negated children =>
    obtain ⟨_, below, plannedBelow, rfl⟩ := plan_group_eq_ok.1 planned
    simp only [Plan.holds, reading, Combinator.join_eq_foldl,
      plans_hold children plannedBelow value]
/-- The plans of several filters answer on every value as each of the filters reads. -/
theorem plans_hold (children : List Filter) {type : DataType} {location : Location}
    {index : Nat} {below : List Plan}
    (planned : plans settings type location index children = .ok below) (value : Value) :
    Plan.results (.value value) below = readings settings type value children := by
  -- Mutual with `plan_holds`, on the list of children that `plans` runs through.
  cases children with
  | nil =>
    simp only [plans, Except.ok.injEq] at planned
    subst planned
    rfl
  | cons child rest =>
    obtain ⟨first, others, plannedFirst, plannedRest, rfl⟩ := plans_cons_eq_ok.1 planned
    simp only [Plan.results, readings, plan_holds child plannedFirst value,
      plans_hold rest plannedRest value]
end

/-- A compiled filter answers on every value as the filter reads under the type of its schema. -/
theorem compile_testValue {schema : Schema} {filter : Filter} {predicate : Predicate}
    (compiled : filter.compile settings schema = .ok predicate) (value : Value) :
    predicate.testValue value = filter.reading settings schema.type value := by
  -- Compiling is planning at the root, so this is `plan_holds` there.
  obtain ⟨plan, planned, rfl⟩ := Outcome.map_eq_ok.1 compiled
  exact plan_holds filter planned value

/-- Books in layers of lists are asked about one of their tags, shelf by shelf. -/
theorem compile_testValue_shelves :
    ∃ predicate : Predicate,
      (nested "shelves" .all
        (condition "Books.tags[1]" .startsWith (some (.string "b")) false) true).compile .standard
        ⟨"Library", [("shelves", .list (.record "Shelf" [("books",
          .list (.list (.record "Book" [("tags", .list .string)])))]))]⟩ = .ok predicate ∧
      predicate.testValue (.record [("shelves", .list [.record [("books", .list [.null, .list [
        .record [("tags", .list [.string "a", .string "bc"])]]])], .record []])]) = true := by
  -- The first shelf passes and the second, which holds no books, does not.
  refine Exists.imp (fun predicate compiled => ⟨compiled, ?_⟩) ⟨_, rfl⟩
  rw [compile_testValue compiled]
  decide +kernel

end Filter

end RecordFilter
