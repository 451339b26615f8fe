import RecordFilter.Proofs.Predicate.Interchange

/-! Lists that a condition meets without a quantifier: it asks for some element, as if that were written. -/

namespace RecordFilter

namespace DataType

/-- The type that a body is handed differs from what is reached in one layer of lists at most. -/
theorem core_of_bodyType {type inner : DataType} {entered : Bool}
    (handed : type.bodyType? entered = some inner) : inner.core = type.core := by
  -- Handing on peels at most one list off, which the core does anyway.
  cases type with
  | list element =>
    simp only [bodyType?, Option.some.injEq] at handed
    rw [← handed, core]
  | _ =>
    simp only [bodyType?, Option.ite_none_right_eq_some, Option.some.injEq] at handed
    rw [handed.2]

end DataType

namespace Operator

/-- What an operator accepts beside a list it accepts beside an element, and the other way round. -/
theorem accepts_of_bodyType {settings : Settings} {operator : Operator} {type inner : DataType}
    {entered : Bool} (handed : type.bodyType? entered = some inner) (literal : Literal) :
    operator.Accepts settings type literal ↔ operator.Accepts settings inner literal := by
  -- Literals are judged beside what is left once all lists are taken off.
  unfold Accepts
  rw [DataType.core_of_bodyType handed]

/-- Looking for a leaf of a value is looking for one of an element, unless a list is asked about itself. -/
theorem any_ends {operator : Operator} {type : DataType} (ask : Leaf → Bool)
    (plain : operator.isQuantifier = false)
    (whole : operator.isNullCheck = true → ∀ element, type ≠ .list element) (value : Value) :
    (operator.ends type value).any ask =
      (Operator.any.ends type value).any fun leaf => (operator.ends leaf.type leaf.value).any ask := by
  cases type with
  | list element =>
    -- The outermost layer of lists is opened in both, and the layers below it by the operator.
    have compares : operator.isNullCheck = false := by
      cases check : operator.isNullCheck with
      | false => rfl
      | true => exact absurd rfl (whole check element)
    simp only [ends_eq_throughout plain compares]
    simp [ends, demand, DataType.throughout, List.any_flatMap, Function.comp_def]
  | _ => simp [ends, demand]

end Operator

namespace Filter

variable {settings : Settings} {type reached : DataType} {path : String} {operator : Operator}
  {entered : Bool}

/-- The empty path stays at the value it starts from. -/
theorem reaches_empty (type : DataType) : Path.Reaches "" type false type :=
  ⟨Path.empty, rfl, .done⟩

/-- A condition looks for a leaf of its path of which the question holds. -/
theorem reading_condition (plain : operator.isQuantifier = false) (literal : Option Literal)
    (negated : Bool) (value : Value) :
    (condition path operator literal negated).reading settings type value =
      ((operator.leavesAt path type value).any (fun leaf =>
        operator.asks settings leaf.type (literal.getD .null) leaf.value) != negated) := by
  -- Every operator but `all` asks for some leaf.
  rw [Filter.reading, Operator.among_eq_any plain]

/-- The quantifier for some element looks for a leaf of its path of which the body holds. -/
theorem reading_nested_any (body : Filter) (negated : Bool) (value : Value) :
    (nested path .any body negated).reading settings type value =
      ((Operator.any.leavesAt path type value).any (fun leaf =>
        body.reading settings leaf.type leaf.value) != negated) := by
  -- `any` is asked of the leaves as it stands.
  rw [Filter.reading]
  rfl

/-- A condition that meets a list may as well ask for an element of which it holds. -/
theorem Interchangeable.implicit_any (plain : operator.isQuantifier = false)
    (reaches : Path.Reaches path type entered reached)
    (collection : entered = true ∨ ∃ element, reached = .list element)
    (whole : operator.isNullCheck = true → ∀ element, reached ≠ .list element)
    (literal : Option Literal) (negated : Bool) :
    Interchangeable settings type (.condition path operator literal negated)
      (.nested path .any (.condition "" operator literal false) negated) := by
  -- A list that was entered or reached leaves something to hand to a body.
  obtain ⟨inner, handed⟩ : ∃ inner, reached.bodyType? entered = some inner := by
    rcases collection with rfl | ⟨element, rfl⟩
    · cases reached <;> exact ⟨_, rfl⟩
    · exact ⟨element, rfl⟩
  have hands : Path.Hands path type inner := ⟨entered, reached, reaches, handed⟩
  have accepts : operator.Accepts settings reached (literal.getD .null) ↔
      operator.Accepts settings inner (literal.getD .null) :=
    Operator.accepts_of_bodyType handed _
  refine ⟨?_, fun value => ?_⟩
  · rw [wellFormed_reaching_iff reaches, wellFormed_handing_iff hands,
      wellFormed_reaching_iff (reaches_empty inner), accepts]
    exact (and_iff_right rfl).symm
  · -- The values at the end of the path are the same, and at each of them the elements are asked.
    obtain ⟨read, good, leads⟩ := reaches
    rw [reading_condition plain, reading_nested_any]
    simp only [Operator.leavesAt, good, leads.leaves_eq, List.any_flatMap,
      Operator.any_ends _ plain whole]
    -- The empty path of the inner condition leads to the element that it is handed.
    simp only [reading_condition plain, Bool.bne_false]
    rfl

/-- In any tree a condition that meets a list may as well ask for an element of which it holds. -/
theorem compile_implicit_any {schema : Schema} {outer : Filter} {indices : List Nat}
    {focus : DataType} {literal : Option Literal} {negated : Bool}
    (plain : operator.isQuantifier = false)
    (stands : Stands schema.type outer indices focus (condition path operator literal negated))
    (reaches : Path.Reaches path focus entered reached)
    (collection : entered = true ∨ ∃ element, reached = .list element)
    (whole : operator.isNullCheck = true → ∀ element, reached ≠ .list element) :
    Alike settings schema outer
      (outer.put indices (nested path .any (condition "" operator literal false) negated)) :=
  -- The rewrite is interchangeable where it stands, and `put` carries that to the root.
  Interchangeable.alike (.put stands (.implicit_any plain reaches collection whole literal negated))

/-- Shelves without a certain tag, asked for with the lists spelled out or passed over. -/
theorem compile_implicit_any_shelves :
    let schema : Schema := ⟨"Library", [("shelves", .list (.record "Shelf" [("books",
      .list (.list (.record "Book" [("tags", .list .string)])))]))]⟩
    ∃ plain spelled : Predicate,
      (group .or false [nested "shelves" .all
        (condition "Books.tags" .equal (some (.string "b")) true) false]).compile .standard schema =
          .ok plain ∧
      (group .or false [nested "shelves" .all
        (nested "Books.tags" .any (condition "" .equal (some (.string "b")) false) true)
          false]).compile .standard schema = .ok spelled ∧
      ∀ value, plain.testValue value = spelled.testValue value := by
  -- The condition sits in the body of the group's only child, and its path crosses three lists.
  intro schema
  have shelf : Path.Reaches "shelves" schema.type false _ := ⟨_, rfl, .field rfl rfl .done⟩
  have tags : Path.Reaches "Books.tags" (.record "Shelf" [("books",
      .list (.list (.record "Book" [("tags", .list .string)])))]) true (.list .string) :=
    ⟨_, rfl, .field rfl rfl (.enter (.enter (.field rfl rfl .done)))⟩
  have stands : Stands schema.type (group .or false [nested "shelves" .all
      (condition "Books.tags" .equal (some (.string "b")) true) false]) [0, 0] _
      (condition "Books.tags" .equal (some (.string "b")) true) :=
    .under (.child rfl) (.under (.body rfl shelf rfl) .here)
  have alike : Alike .standard schema _ _ :=
    compile_implicit_any rfl stands tags (.inl rfl) nofun
  exact ⟨_, _, rfl, rfl, alike.agree _ _ rfl rfl⟩

end Filter

end RecordFilter
