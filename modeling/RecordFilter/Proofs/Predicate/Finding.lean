import RecordFilter.Proofs.Pattern.Limit
import RecordFilter.Proofs.Predicate.Likeness
import RecordFilter.Proofs.Predicate.Location
import RecordFilter.Proofs.Predicate.Settling

/-! What operators find of values alone: it is what they ask of them beside the type and the literal. -/

namespace RecordFilter

/-- The literal is null, a truth value, an integer or a text, or a list of such. -/
inductive Literal.Elementary : Literal → Prop
  | null : Elementary .null
  | boolean {value : Bool} : Elementary (.boolean value)
  | int {value : Int64} : Elementary (.int value)
  | string {text : String} : Elementary (.string text)
  | list {items : List Literal} (every : ∀ item ∈ items, Elementary item) :
      Elementary (.list items)

namespace Value

variable {type : DataType} {value : Value} {literal : Literal}

/-- A value is the same as what a literal is when it equals what the literal stands for. -/
theorem same_eq_equals (elementary : type.Elementary) (simple : literal.Elementary)
    (suits : literal.Suits type) (regular : Regular type value) :
    value.same literal.value = literal.equals type value := by
  -- The literal settles the type, and the type leaves null and one kind of value.
  cases simple with
  | null =>
    have stands : Literal.null.equals type value = value.equal .null := by cases type <;> rfl
    rw [stands]
    cases value <;> rfl
  | @boolean flag =>
    cases type with
    | boolean =>
      cases regular.conforms with
      | null => rfl
      | @boolean held => cases held <;> cases flag <;> rfl
    | _ => exact suits.elim
  | @int number =>
    cases type with
    | int =>
      cases regular.conforms with
      | null => rfl
      | @int held =>
        show (held == number) = (some (compare held.toInt number.toInt) == some .eq)
        rw [Bool.eq_iff_iff]
        simp [Int64.toInt_inj]
    | float | decimal => simpa using elementary.kind_of_scalar rfl
    | _ => exact suits.elim
  | @string text =>
    cases type with
    | string =>
      cases regular.conforms with
      | null => rfl
      | @string held =>
        show (held == text) = (some (compare held text) == some .eq)
        rw [Bool.eq_iff_iff]
        simp
    | decimal | date | timestamp | uuid => simpa using elementary.kind_of_scalar rfl
    | _ => exact suits.elim
  | list => cases type <;> exact suits.elim

/-- The orders of integers are those of the numbers they stand for. -/
theorem order_of_compare (left right : Int64) :
    decide (left > right) = (compare left.toInt right.toInt).isGT ∧
      decide (left ≥ right) = (compare left.toInt right.toInt).isGE ∧
      decide (left < right) = (compare left.toInt right.toInt).isLT ∧
      decide (left ≤ right) = (compare left.toInt right.toInt).isLE := by
  -- Machine integers are compared here; their four orders are those of the integers they hold.
  refine ⟨?_, ?_, ?_, ?_⟩ <;> rw [Bool.eq_iff_iff, decide_eq_true_iff]
  · rw [Ordering.isGT_iff_eq_gt, Std.compare_eq_gt]
    exact Int64.lt_iff_toInt_lt
  · rw [Std.isGE_compare]
    exact Int64.le_iff_toInt_le
  · rw [Ordering.isLT_iff_eq_lt, Std.compare_eq_lt]
    exact Int64.lt_iff_toInt_lt
  · rw [Std.isLE_compare]
    exact Int64.le_iff_toInt_le

/-- Integers stand in an order as they do beside an integer literal. -/
theorem integers_eq_ranks {test : Int64 → Int64 → Bool} {acceptable : Ordering → Bool}
    (same : ∀ left right : Int64, test left right = acceptable (compare left.toInt right.toInt))
    (elementary : type.Elementary) (ordered : type.isOrdered = true) (simple : literal.Elementary)
    (present : literal ≠ .null) (suits : literal.Suits type) (regular : Regular type value) :
    value.integers test literal.value = literal.ranks type acceptable value := by
  -- Of all elementary types only integers are ordered.
  cases type with
  | float | decimal | date | timestamp => simpa using elementary.kind_of_scalar rfl
  | boolean | string | uuid | list | record => cases ordered
  | int =>
    cases simple with
    | null => exact absurd rfl present
    | boolean | string | list => exact suits.elim
    | int =>
      cases regular.conforms with
      | null => rfl
      | int => exact same _ _

/-- Texts are compared as they are beside a text literal. -/
theorem texts_eq_compares (test : String → String → Bool) (text : String) (value : Value) :
    value.texts test (Literal.string text).value = (Literal.string text).compares test value := by
  cases value <;> rfl

/-- A value is among those that a list of literals is when one of the literals equals it. -/
theorem isAmong_eq_lists {items : List Literal} (elementary : type.Elementary)
    (simple : ∀ item ∈ items, item.Elementary) (suits : ∀ item ∈ items, item.Suits type)
    (regular : Regular type value) :
    value.isAmong (Literal.list items).value = (Literal.list items).lists type value := by
  -- The list of literals is coerced item by item, and each coerced item is met as its plain value
  -- is.
  have values : Literal.values items = items.map Literal.value := by
    induction items with
    | nil => rfl
    | cons item rest ih =>
      rw [List.forall_mem_cons] at simple suits
      rw [Literal.values, List.map_cons, ih simple.2 suits.2]
  rw [Literal.value, isAmong, values, List.any_map, Literal.lists, Literal.items?,
    Option.getD_some, Bool.eq_iff_iff, List.any_eq_true, List.any_eq_true]
  refine exists_congr fun item => and_congr_right fun member => ?_
  rw [Function.comp, same_eq_equals elementary (simple item member) (suits item member) regular]

end Value

namespace Operator

variable {settings : Settings}

/-- A pattern of any size occurs where it does under the settings that allow for it. -/
theorem matched?_settles {text : String} {pattern : Pattern}
    (compiled : Pattern.compile? settings.patternLimit.toNat text = some pattern) (value : Value) :
    Settles (settings.patternLimit.toNat ≤ Pattern.freeLimit)
      (value.matched? (Literal.string text).value) ((Literal.string text).occurs settings value) := by
  cases value with
  | string held =>
    have occurs : (Literal.string text).occurs settings (.string held) = pattern.occursIn held := by
      simp only [Literal.occurs, Literal.compares, Value.text?, Literal.text?, compiled]
      rfl
    rw [occurs]
    -- One text makes one pattern under all limits, and makes it under the greater one of two.
    constructor
    · intro other found
      obtain ⟨again, recompiled, rfl⟩ := Option.map_eq_some_iff.1 found
      rw [Pattern.compile?_unique compiled recompiled]
    · intro enough
      exact Option.map_eq_some_iff.2 ⟨pattern, Pattern.compile?_of_le enough compiled, rfl⟩
  | _ => exact .some false

/-- Beside what an operator accepts it finds what it asks. -/
theorem judge?_settles {operator : Operator} {type : DataType} {literal : Literal} {value : Value}
    (single : ∀ element, type ≠ .list element) (elementary : type.Elementary)
    (simple : literal.Elementary) (accepted : operator.Accepts settings type literal)
    (regular : Value.Regular type value) :
    Settles (settings.patternLimit.toNat ≤ Pattern.freeLimit)
      (operator.judge? value literal.value) (operator.asks settings type literal value) := by
  have core : type.core = type := by
    cases type with
    | list element => exact absurd rfl (single element)
    | _ => rfl
  -- What the operator accepts is what brings both questions together.
  cases operator with
  | isNull | notNull => exact .some _
  | equal | notEqual =>
    have suits : literal.Suits type := core ▸ accepted
    have same := Value.same_eq_equals elementary simple suits regular
    simp only [judge?, asks, same]
    exact .some _
  | isIn | notIn =>
    obtain ⟨items, rfl, suits⟩ := accepted
    rw [core] at suits
    cases simple with
    | list every =>
      have same := Value.isAmong_eq_lists elementary every suits regular
      simp only [judge?, asks, same]
      exact .some _
  | greaterThan | greaterOrEqual | lessThan | lessOrEqual =>
    obtain ⟨ordered, present, suits⟩ := accepted
    rw [core] at ordered suits
    have same {test : Int64 → Int64 → Bool} {acceptable : Ordering → Bool}
        (same : ∀ left right : Int64,
          test left right = acceptable (compare left.toInt right.toInt)) :
        value.integers test literal.value = literal.ranks type acceptable value :=
      Value.integers_eq_ranks same elementary ordered simple present suits regular
    simp only [judge?, asks, same fun left right => (Value.order_of_compare left right).1,
      same fun left right => (Value.order_of_compare left right).2.1,
      same fun left right => (Value.order_of_compare left right).2.2.1,
      same fun left right => (Value.order_of_compare left right).2.2.2]
    exact .some _
  | startsWith | doesNotStartWith | endsWith | doesNotEndWith | contains | doesNotContain =>
    obtain ⟨-, text, rfl⟩ := accepted
    simp only [judge?, asks, Value.texts_eq_compares]
    exact .some _
  | matchesPattern =>
    obtain ⟨-, text, pattern, rfl, compiled⟩ := accepted
    exact matched?_settles compiled value
  | doesNotMatchPattern =>
    obtain ⟨-, text, pattern, rfl, compiled⟩ := accepted
    exact (matched?_settles compiled value).map not
  | all | any => exact accepted.elim

/-- An operator that compares finds something in layers of lists when it finds a leaf. -/
theorem visit?_settles {operator : Operator} {type : DataType} {literal : Literal}
    (elementary : type.Elementary) (simple : literal.Elementary)
    (accepted : operator.Accepts settings type literal) {value : Value}
    (regular : Value.Regular type value) :
    Settles (settings.patternLimit.toNat ≤ Pattern.freeLimit)
      (value.visit? .any fun item => operator.judge? item literal.value)
      ((type.throughout (fun core value => [⟨core, value⟩]) value).any fun leaf =>
        operator.asks settings leaf.type literal leaf.value) := by
  -- The layers of the type are those of the value, so the induction is on the type.
  induction type using DataType.core.induct generalizing value with
  | case1 element ih =>
    obtain ⟨items, rfl, every⟩ := regular.list_items
    rw [DataType.throughout, List.any_flatMap]
    show Settles _ (Value.visitItems? .any _ items) (Quantifier.any.over _ items)
    rw [Value.visitItems?_eq_poll?]
    exact Quantifier.poll?_settles fun item member =>
      ih elementary.of_list accepted (every item member)
  | case2 type single =>
    have leaf : type.throughout (fun core value => [⟨core, value⟩]) value = [⟨type, value⟩] := by
      cases type with
      | list element => exact absurd rfl (single element)
      | _ => rfl
    rw [leaf, List.any_cons, List.any_nil, Bool.or_false,
      Value.visit?_single (regular.ne_list single)]
    exact judge?_settles single elementary simple accepted regular

/-- At the end of a path an operator finds what it asks of the leaves there. -/
theorem finish?_settles {operator : Operator} {type : DataType} {literal : Literal}
    (plain : operator.isQuantifier = false) (elementary : type.Elementary)
    (simple : literal.Elementary) (accepted : operator.Accepts settings type literal)
    {value : Value} (regular : Value.Regular type value) :
    Settles (settings.patternLimit.toNat ≤ Pattern.freeLimit) (operator.finish? literal value)
      (operator.among (fun leaf => operator.asks settings leaf.type literal leaf.value)
        (operator.ends type value)) := by
  rw [finish?, plain, if_neg (by decide)]
  by_cases check : operator.isNullCheck = true
  · -- A null check asks about the value as it is, be it a list or not.
    rw [if_pos check]
    cases operator with
    | isNull | notNull =>
      simp only [ends, demand, among_singleton]
      exact .some _
    | _ => cases check
  · rw [Bool.not_eq_true] at check
    rw [check, if_neg (by decide), ends_eq_throughout plain check, among_eq_any plain]
    exact visit?_settles elementary simple accepted regular

/-- What is handed to a body at the end of a path settles what the body says of the leaves there. -/
theorem hand?_settles {operator : Operator} {type inner : DataType} {entered : Bool}
    {ask : Value → Option Bool} (test : Leaf → Bool) (quantifies : operator.isQuantifier = true)
    (handed : type.bodyType? entered = some inner)
    (each : ∀ value, Value.Regular inner value → Settles sure (ask value) (test ⟨inner, value⟩))
    {value : Value} (regular : Value.Regular type value) :
    Settles sure (operator.quantifier.hand? ask value)
      (operator.among test (operator.ends type value)) := by
  -- A list hands its items on, everything else itself, and the interpretation does the same.
  have demanded : operator.demand = .body := by
    simpa [isQuantifier_eq] using quantifies
  cases type with
  | list element =>
    -- The quantifier polls the items, and the leaves are these items one by one.
    obtain rfl := Option.some.inj handed
    obtain ⟨items, rfl, every⟩ := regular.list_items
    have asked : operator.among test (operator.ends (.list element) (.list items)) =
        operator.quantifier.over (fun item => test ⟨element, item⟩) items := by
      simp only [ends, demanded, Value.entries, List.map_eq_flatMap, among_flatMap, among_singleton]
    rw [asked]
    exact Quantifier.poll?_settles fun item member => each item (every item member)
  | _ =>
    -- A regular value of no list type is no list, so it is the one leaf.
    simp only [DataType.bodyType?, Option.ite_none_right_eq_some, Option.some.injEq] at handed
    obtain ⟨-, rfl⟩ := handed
    simp only [ends, demanded, among_singleton]
    have settles := each value regular
    cases value with
    | list items => exact absurd rfl (regular.ne_list (fun element same => by cases same) items)
    | _ => exact settles

end Operator

end RecordFilter
