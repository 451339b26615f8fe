import RecordFilter.Predicate.Basic
import RecordFilter.Proofs.Predicate.Planning

/-! Well-formed filters: what the types ask of every node of a tree, and that compiling asks no more. -/

namespace RecordFilter

/-- The text of a path leads from one type to another, entering lists on the way or not. -/
def Path.Reaches (text : String) (type : DataType) (entered : Bool) (reached : DataType) : Prop :=
  ∃ path, read text = .ok path ∧ Leads path.segments type entered reached

/-- The literal stands for a value that goes with values of the type. -/
def Literal.Suits : DataType → Literal → Prop
  | _, .null | .boolean, .boolean _ | .string, .string _ => True
  -- Numbers go together, except that a decimal has to be finite.
  | .int, .int _ | .int, .float _ | .float, .float _ | .float, .int _ | .decimal, .int _ => True
  | .decimal, .float value => value.isFinite = true
  | .date, .date _ | .timestamp, .timestamp _ | .timestamp, .date _ => True
  -- A string has to be written as the type demands.
  | .decimal, .string text => ∃ number, Decimal.read? text = some number
  | .date, .string text => ∃ day, Date.read? text = some day
  | .timestamp, .string text => ∃ time, Timestamp.read? text = some time
  | .uuid, .string text => ∃ identifier, Uuid.read? text = some identifier
  | _, _ => False

/-- An operator takes a literal beside values of a type, or beside those in lists of the type. -/
def Operator.Accepts (settings : Settings) (operator : Operator) (type : DataType)
    (literal : Literal) : Prop :=
  match operator.demand with
  | .nothing => True
  | .candidates => ∃ items, literal = .list items ∧ ∀ item ∈ items, item.Suits type.core
  | .rank => type.core.isOrdered = true ∧ literal ≠ .null ∧ literal.Suits type.core
  | .pattern =>
    type.core = .string ∧ ∃ text pattern, literal = .string text ∧
      Pattern.compile? settings.patternLimit.toNat text = some pattern
  | .text => type.core = .string ∧ ∃ text, literal = .string text
  | .value => literal.Suits type.core
  | .body => False

namespace Filter

/-- A filter that makes sense for values of a type, together with everything below it. -/
inductive WellFormed (settings : Settings) : DataType → Filter → Prop
  -- A missing literal counts as null.
  | condition {path : String} {operator : Operator} {value : Option Literal} {negated : Bool}
      {type reached : DataType} {entered : Bool} (plain : operator.isQuantifier = false)
      (reaches : Path.Reaches path type entered reached)
      (accepted : operator.Accepts settings reached (value.getD .null)) :
      WellFormed settings type (.condition path operator value negated)
  -- The body is about the elements of a list, or about what was reached inside of one.
  | nested {path : String} {operator : Operator} {body : Filter} {negated : Bool}
      {type reached inner : DataType} {entered : Bool} (quantifies : operator.isQuantifier = true)
      (reaches : Path.Reaches path type entered reached)
      (handed : reached.bodyType? entered = some inner) (below : WellFormed settings inner body) :
      WellFormed settings type (.nested path operator body negated)
  | group {combinator : Combinator} {negated : Bool} {children : List Filter} {type : DataType}
      (allowed : children = [] → settings.emptyGroups = .identity)
      (below : ∀ child ∈ children, WellFormed settings type child) :
      WellFormed settings type (.group combinator negated children)

end Filter

namespace Literal

/-- A text is read as a value of a type when the reader of such scalars reads it. -/
theorem exists_readAs {type : DataType} {text : String} {read : Option α} {wrap : α → Value}
    {fault : ScalarError}
    (parsed : Value.parse type text = (read.map wrap).elim (.error fault) .ok) :
    (∃ value, readAs type text = .ok value) ↔ ∃ scalar, read = some scalar := by
  -- The fault of a reader is wrapped, which leaves no value either way.
  unfold readAs
  simp only [Outcome.mapError_eq_ok, parsed]
  cases read <;> simp

/-- Every finite number has its exact decimal, and no other number has one. -/
theorem exists_toDecimal {value : Double} :
    (∃ decimal, value.toDecimal? = some decimal) ↔ value.isFinite = true := by
  cases value <;> simp [Double.toDecimal?, Double.isFinite]

/-- Exactly the literals that suit a type stand for a value beside it. -/
theorem exists_coerce {type : DataType} {literal : Literal} :
    (∃ value, literal.coerce type = .ok value) ↔ literal.Suits type := by
  -- Only decimals and strings are more than a matter of their kind.
  cases literal with
  | float value =>
    cases type with
    | decimal =>
      simp only [coerce, Suits, ← exists_toDecimal]
      cases value.toDecimal? <;> simp
    | _ => simp [coerce, Suits]
  | string text =>
    cases type with
    | decimal | date | timestamp | uuid => exact exists_readAs rfl
    | _ => simp [coerce, Suits]
  | _ => cases type <;> simp [coerce, Suits]

/-- Candidates stand for values when each of them suits the type. -/
theorem exists_values {type : DataType} {items : List Literal} :
    (∃ values : List Value, items.map (coerce type) = values.map .ok) ↔
      ∀ item ∈ items, item.Suits type := by
  -- A value is found for each candidate by itself, and the values make up a list.
  induction items with
  | nil => exact ⟨fun _ item member => absurd member List.not_mem_nil, fun _ => ⟨[], rfl⟩⟩
  | cons item rest ih =>
    rw [List.forall_mem_cons, ← exists_coerce, ← ih]
    constructor
    · intro given
      rcases given with ⟨values, read⟩
      cases values with
      | nil => simp at read
      | cons value values =>
        simp only [List.map_cons, List.cons.injEq] at read
        exact ⟨⟨value, read.1⟩, values, read.2⟩
    · intro given
      rcases given with ⟨⟨value, read⟩, values, readRest⟩
      exact ⟨value :: values, by simp [read, readRest]⟩

end Literal

/-- Texts are the values of strings and of no other type. -/
theorem DataType.isText_iff {type : DataType} : type.isText = true ↔ type = .string := by
  cases type <;> simp [isText]

/-- Null is the only literal that is one. -/
theorem Literal.isNull_eq_false {literal : Literal} : literal.isNull = false ↔ literal ≠ .null := by
  cases literal <;> simp [isNull]

/-- Where an operator is not a null check, it asks about the values in lists. -/
theorem DataType.asked_eq_core {operator : Operator} (compares : operator.demand ≠ .nothing)
    (type : DataType) : type.asked operator = type.core := by
  simp [asked, Operator.isNullCheck_eq, compares]

/-- An operand is built of exactly the literals that the operator accepts. -/
theorem Operator.exists_built {settings : Settings} {operator : Operator} {type : DataType}
    {literal : Literal} :
    (∃ operand, Operand.Built settings (type.asked operator) operator.demand literal operand) ↔
      operator.Accepts settings type literal := by
  -- Each demand has one form of operand, with exactly the conditions that are asked here.
  unfold Accepts
  cases demanded : operator.demand with
  | nothing => exact ⟨fun _ => trivial, fun _ => ⟨.none, .nothing⟩⟩
  | body =>
    refine ⟨fun given => ?_, False.elim⟩
    rcases given with ⟨operand, built⟩
    cases built
  | candidates =>
    rw [DataType.asked_eq_core (by simp [demanded])]
    constructor
    · intro given
      rcases given with ⟨operand, built⟩
      cases built with
      | candidates read => exact ⟨_, rfl, Literal.exists_values.1 ⟨_, read⟩⟩
    · intro given
      rcases given with ⟨items, rfl, suited⟩
      obtain ⟨values, read⟩ := Literal.exists_values.2 suited
      exact ⟨.set values, .candidates read⟩
  | rank =>
    rw [DataType.asked_eq_core (by simp [demanded]), ← Literal.exists_coerce]
    constructor
    · intro given
      rcases given with ⟨operand, built⟩
      cases built with
      | rank ordered present read =>
        exact ⟨ordered, Literal.isNull_eq_false.1 present, _, read⟩
    · intro given
      rcases given with ⟨ordered, present, value, read⟩
      exact ⟨.value value, .rank ordered (Literal.isNull_eq_false.2 present) read⟩
  | pattern =>
    rw [DataType.asked_eq_core (by simp [demanded]), ← DataType.isText_iff]
    constructor
    · intro given
      rcases given with ⟨operand, built⟩
      cases built with
      | pattern isText compiled => exact ⟨isText, _, _, rfl, compiled⟩
    · intro given
      rcases given with ⟨isText, text, pattern, rfl, compiled⟩
      exact ⟨.pattern pattern, .pattern isText compiled⟩
  | text =>
    rw [DataType.asked_eq_core (by simp [demanded]), ← DataType.isText_iff]
    constructor
    · intro given
      rcases given with ⟨operand, built⟩
      cases built with
      | text isText => exact ⟨isText, _, rfl⟩
    · intro given
      rcases given with ⟨isText, text, rfl⟩
      exact ⟨.value (.string text), .text isText⟩
  | value =>
    rw [DataType.asked_eq_core (by simp [demanded]), ← Literal.exists_coerce]
    constructor
    · intro given
      rcases given with ⟨operand, built⟩
      cases built with
      | value read => exact ⟨_, read⟩
    · intro given
      rcases given with ⟨value, read⟩
      exact ⟨.value value, .value read⟩

namespace Filter

variable {settings : Settings}

mutual
/-- A filter has a plan, at whatever place in a tree, when it is well-formed. -/
theorem exists_plan (filter : Filter) {type : DataType} (location : Location) :
    (∃ plan, filter.plan settings type location = .ok plan) ↔ WellFormed settings type filter := by
  -- The type in focus changes with every body, so both directions hold for all types at once.
  cases filter with
  | condition path operator value negated =>
    constructor
    · intro given
      rcases given with ⟨plan, planned⟩
      obtain ⟨plain, read, entered, reached, operand, good, leads, built, -⟩ :=
        plan_condition_eq_ok.1 planned
      exact .condition plain ⟨read, good, leads⟩ (Operator.exists_built.1 ⟨operand, built⟩)
    · intro wellFormed
      cases wellFormed with
      | condition plain reaches accepted =>
        obtain ⟨read, good, leads⟩ := reaches
        obtain ⟨operand, built⟩ := Operator.exists_built.2 accepted
        exact ⟨_, plan_condition_eq_ok.2
          ⟨plain, read, _, _, operand, good, leads, built, rfl⟩⟩
  | nested path operator body negated =>
    constructor
    · intro given
      rcases given with ⟨plan, planned⟩
      obtain ⟨quantifies, read, entered, reached, inner, below, good, leads, handed, plannedBody,
        -⟩ := plan_nested_eq_ok.1 planned
      exact .nested quantifies ⟨read, good, leads⟩ handed
        ((exists_plan body _).1 ⟨below, plannedBody⟩)
    · intro wellFormed
      cases wellFormed with
      | nested quantifies reaches handed bodyFormed =>
        obtain ⟨read, good, leads⟩ := reaches
        obtain ⟨below, plannedBody⟩ :=
          (exists_plan body (location.child 0)).2 bodyFormed
        exact ⟨_, plan_nested_eq_ok.2
          ⟨quantifies, read, _, _, _, below, good, leads, handed, plannedBody, rfl⟩⟩
  | group combinator negated children =>
    constructor
    · intro given
      rcases given with ⟨plan, planned⟩
      obtain ⟨allowed, below, plannedBelow, -⟩ := plan_group_eq_ok.1 planned
      exact .group allowed ((exists_plans children _ _).1 ⟨below, plannedBelow⟩)
    · intro wellFormed
      cases wellFormed with
      | group allowed belowFormed =>
        obtain ⟨below, plannedBelow⟩ :=
          (exists_plans children location 0).2 belowFormed
        exact ⟨_, plan_group_eq_ok.2 ⟨allowed, below, plannedBelow, rfl⟩⟩
/-- Several filters have plans, from whatever index on, when each of them is well-formed. -/
theorem exists_plans (children : List Filter) {type : DataType} (location : Location)
    (index : Nat) :
    (∃ below, plans settings type location index children = .ok below) ↔
      ∀ child ∈ children, WellFormed settings type child := by
  -- Mutual with `exists_plan`: the list has plans when each child has one.
  cases children with
  | nil => simp [plans]
  | cons child rest =>
    rw [List.forall_mem_cons]
    constructor
    · intro given
      rcases given with ⟨below, planned⟩
      obtain ⟨first, others, plannedFirst, plannedRest, -⟩ := plans_cons_eq_ok.1 planned
      exact ⟨(exists_plan child _).1 ⟨first, plannedFirst⟩,
        (exists_plans rest _ _).1 ⟨others, plannedRest⟩⟩
    · intro given
      rcases given with ⟨wellFormed, wellFormedRest⟩
      obtain ⟨first, plannedFirst⟩ :=
        (exists_plan child (location.child index)).2 wellFormed
      obtain ⟨others, plannedRest⟩ :=
        (exists_plans rest location (index + 1)).2 wellFormedRest
      exact ⟨_, plans_cons_eq_ok.2 ⟨first, others, plannedFirst, plannedRest, rfl⟩⟩
end

/-- Exactly the filters that are well-formed for the records of a schema compile against it. -/
theorem compile_iff_wellFormed {schema : Schema} {filter : Filter} :
    (∃ predicate, filter.compile settings schema = .ok predicate) ↔
      WellFormed settings schema.type filter := by
  -- The predicate adds the name of the schema to a plan and checks nothing more.
  rw [← exists_plan filter .root]
  constructor
  · intro given
    rcases given with ⟨predicate, compiled⟩
    obtain ⟨plan, planned, -⟩ := Outcome.map_eq_ok.1 compiled
    exact ⟨plan, planned⟩
  · intro given
    rcases given with ⟨plan, planned⟩
    exact ⟨_, Outcome.map_eq_ok.2 ⟨plan, planned, rfl⟩⟩

end Filter

end RecordFilter
