import RecordFilter.Proofs.Predicate.Quantification
import RecordFilter.Proofs.Predicate.Straight
import RecordFilter.Proofs.Predicate.Duality

/-! Operators in pairs that deny each other: what one asks of a value the other denies of it. -/

namespace RecordFilter

namespace Operator

/-- The operator that denies what another one asks; orders and quantifiers have none. -/
def complement? : Operator → Option Operator
  | .equal => some .notEqual
  | .notEqual => some .equal
  | .startsWith => some .doesNotStartWith
  | .doesNotStartWith => some .startsWith
  | .endsWith => some .doesNotEndWith
  | .doesNotEndWith => some .endsWith
  | .contains => some .doesNotContain
  | .doesNotContain => some .contains
  | .isNull => some .notNull
  | .notNull => some .isNull
  | .matchesPattern => some .doesNotMatchPattern
  | .doesNotMatchPattern => some .matchesPattern
  | .isIn => some .notIn
  | .notIn => some .isIn
  | _ => none

variable {settings : Settings} {operator complement : Operator} {type reached : DataType}

/-- Each of two complements is the other one's. -/
theorem complement?_symm (pair : operator.complement? = some complement) :
    complement.complement? = some operator := by
  cases operator <;> cases pair <;> rfl

/-- An operator that has a complement is no quantifier. -/
theorem plain_of_complement (pair : operator.complement? = some complement) :
    operator.isQuantifier = false := by
  cases operator <;> first | rfl | cases pair

/-- Complements demand the same beside them. -/
theorem demand_complement (pair : operator.complement? = some complement) :
    complement.demand = operator.demand := by
  cases operator <;> cases pair <;> rfl

/-- Complements take the same literals. -/
theorem accepts_complement (pair : operator.complement? = some complement) (literal : Literal) :
    complement.Accepts settings type literal ↔ operator.Accepts settings type literal := by
  -- What is accepted depends on the demand alone.
  rw [Accepts, Accepts, demand_complement pair]

/-- Of every value, fitting or not, one of two complements holds and the other does not. -/
theorem asks_complement (pair : operator.complement? = some complement) (literal : Literal)
    (actual : Value) :
    complement.asks settings type literal actual =
      !operator.asks settings type literal actual := by
  -- Each of the pairs asks its partner's question and turns the answer round.
  cases operator <;> cases pair <;> simp [asks]

end Operator

namespace Filter

variable {settings : Settings} {type reached inner : DataType} {path : String} {entered : Bool}
  {operator complement : Operator} {literal : Option Literal} {negated : Bool}

/-- No operator but a quantifier makes sense with a body. -/
theorem not_wellFormed_nested (plain : operator.isQuantifier = false) (body : Filter) :
    ¬ WellFormed settings type (.nested path operator body negated) := by
  -- Only `all` and `any` take a body, and neither has a complement.
  intro formed
  have quantifies := (wellFormed_nested_iff.1 formed).1
  rw [plain] at quantifies
  cases quantifies

/-- A condition makes sense with an operator when it does with the complement. -/
theorem wellFormed_complement (pair : operator.complement? = some complement) :
    WellFormed settings type (.condition path complement literal negated) ↔
      WellFormed settings type (.condition path operator literal negated) := by
  simp only [wellFormed_condition_iff, Operator.accepts_complement pair]
  -- The demands of both are the same, and neither is for a body.
  rw [Operator.isQuantifier_eq, Operator.isQuantifier_eq, Operator.demand_complement pair]

namespace Interchangeable

/-- Where a path has one leaf, a condition with the complement is the condition turned around. -/
theorem complementary (pair : operator.complement? = some complement)
    (reaches : Path.Reaches path type false reached)
    (whole : operator.isNullCheck = false → reached.isList = false) (literal : Option Literal)
    (negated : Bool) :
    Interchangeable settings type (.condition path complement literal negated)
      (.condition path operator literal !negated) := by
  have plain : operator.isQuantifier = false := Operator.plain_of_complement pair
  have demanded : complement.demand = operator.demand := Operator.demand_complement pair
  -- The path asks about the same leaf for both operators.
  have plainOther : complement.isQuantifier = false :=
    Operator.plain_of_complement (Operator.complement?_symm pair)
  have wholeOther : complement.isNullCheck = false → reached.isList = false := by
    rwa [Operator.isNullCheck_eq, demanded, ← Operator.isNullCheck_eq]
  refine ⟨?_, fun value => ?_⟩
  · rw [wellFormed_complement pair, wellFormed_condition_iff, wellFormed_condition_iff]
  · rw [reading_straight plainOther reaches wholeOther, reading_straight plain reaches whole,
      Operator.asks_complement pair, Bool.not_bne, Bool.bne_not]

/-- Over a list, a condition turned around asks that the complement holds of all elements. -/
theorem complementary_all (pair : operator.complement? = some complement)
    (reaches : Path.Reaches path type entered reached)
    (handed : reached.bodyType? entered = some inner) (single : inner.isList = false)
    (whole : operator.isNullCheck = true → reached.isList = false) (literal : Option Literal) :
    Interchangeable settings type (.condition path operator literal true)
      (.nested path .all (.condition "" complement literal false) false) := by
  have plain : operator.isQuantifier = false := Operator.plain_of_complement pair
  have collection : entered = true ∨ ∃ element, reached = .list element := by
    cases reached with
    | list element => exact .inr ⟨element, rfl⟩
    | _ =>
      simp only [DataType.bodyType?, Option.ite_none_right_eq_some] at handed
      exact .inl handed.1
  have unlisted : operator.isNullCheck = true → ∀ element, reached ≠ .list element := by
    rintro check element rfl
    cases whole check
  -- What is denied is that some element passes, so that all of them pass the complement.
  have searched : Interchangeable settings type (.condition path operator literal true)
      (.nested path .any (.condition "" operator literal false) true) :=
    implicit_any plain reaches collection unlisted literal true
  have denied : Interchangeable settings inner (.condition "" complement literal true)
      (.condition "" operator literal false) :=
    complementary pair (reaches_empty inner) (fun _ => single) literal true
  have spread : Interchangeable settings type
      (.nested path .all (.condition "" complement literal false) false)
      (.nested path .any (.condition "" complement literal true) true) :=
    dual path (.condition "" complement literal false) false
  have hands : Path.Hands path type inner := ⟨entered, reached, reaches, handed⟩
  exact searched.trans (spread.trans (denied.nested rfl hands true)).symm

end Interchangeable

/--
Conditions with complements deny each other where a path has one leaf, and elsewhere only element by element.

With a body neither of them compiles, as for every operator that is no quantifier.
-/
theorem compile_complements (pair : operator.complement? = some complement) (settings : Settings)
    (schema : Schema) (path : String) (literal : Option Literal) (negated : Bool) :
    ((condition path operator literal negated).Compiles settings schema ↔
        (condition path complement literal negated).Compiles settings schema) ∧
      (∀ body, ¬ (nested path operator body negated).Compiles settings schema ∧
        ¬ (nested path complement body negated).Compiles settings schema) ∧
      ∀ entered reached, Path.Reaches path schema.type entered reached →
        (entered = false → (operator.isNullCheck = false → reached.isList = false) →
          Opposed settings schema (condition path complement literal negated)
            (condition path operator literal negated)) ∧
        ∀ inner, reached.bodyType? entered = some inner → inner.isList = false →
          (operator.isNullCheck = true → reached.isList = false) →
          Alike settings schema (condition path operator literal true)
            (nested path .all (condition "" complement literal false) false) := by
  -- The operators of a pair demand the same operand, so they compile together; the answers then
  -- differ by where the path ends.
  have plain : operator.isQuantifier = false := Operator.plain_of_complement pair
  have plainOther : complement.isQuantifier = false :=
    Operator.plain_of_complement (Operator.complement?_symm pair)
  refine ⟨?_, fun body => ⟨?_, ?_⟩, fun entered reached reaches => ⟨?_, ?_⟩⟩
  · rw [compiles_iff_wellFormed, compiles_iff_wellFormed, wellFormed_complement pair]
  · rw [compiles_iff_wellFormed]
    exact not_wellFormed_nested plain body
  · rw [compiles_iff_wellFormed]
    exact not_wellFormed_nested plainOther body
  · -- Off the lists one leaf is asked, so negating the answer negates the operator.
    rintro rfl whole
    exact (Interchangeable.complementary pair reaches whole literal negated).opposed
  · -- On a list, "not some item" is "every item not".
    intro inner handed single whole
    exact (Interchangeable.complementary_all pair reaches handed single whole literal).alike

/-- A title that does not contain a letter, and tags of which it is denied that some contains it. -/
theorem compile_complements_tags :
    let schema : Schema := ⟨"Post", [("title", .string), ("tags", .list .string)]⟩
    let letter : Option Literal := some (.string "a")
    (∃ plain denied : Predicate,
      (condition "Title" .contains letter false).compile .standard schema = .ok plain ∧
      (condition "Title" .doesNotContain letter false).compile .standard schema = .ok denied ∧
      ∀ value, denied.testValue value = !plain.testValue value) ∧
    ∃ denied every : Predicate,
      (condition "tags" .contains letter true).compile .standard schema = .ok denied ∧
      (nested "tags" .all (condition "" .doesNotContain letter false) false).compile .standard
        schema = .ok every ∧
      ∀ value, denied.testValue value = every.testValue value := by
  -- One field off the lists and one list of texts.
  intro schema letter
  have title : Path.Reaches "Title" schema.type false .string := ⟨_, rfl, .field rfl rfl .done⟩
  have tags : Path.Reaches "tags" schema.type false (.list .string) :=
    ⟨_, rfl, .field rfl rfl .done⟩
  have pair : Operator.contains.complement? = some .doesNotContain := rfl
  obtain ⟨-, -, opposed⟩ := compile_complements pair .standard schema "Title" letter false
  obtain ⟨-, -, alike⟩ := compile_complements pair .standard schema "tags" letter false
  refine ⟨⟨_, _, rfl, rfl, ?_⟩, ⟨_, _, rfl, rfl, ?_⟩⟩
  · exact ((opposed _ _ title).1 rfl fun _ => rfl).differ _ _ rfl rfl
  · exact ((alike _ _ tags).2 _ rfl rfl nofun).agree _ _ rfl rfl

end Filter

end RecordFilter
