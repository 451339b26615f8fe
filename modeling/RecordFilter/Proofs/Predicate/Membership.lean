import RecordFilter.Proofs.Predicate.Duality
import RecordFilter.Proofs.Predicate.Quantification
import RecordFilter.Proofs.Predicate.Straight

/-! Membership in a list of candidates: it asks of each candidate what equality asks of one literal. -/

namespace RecordFilter

namespace Operator

/-- Candidates are accepted when each of them is accepted by itself. -/
theorem accepts_candidates {settings : Settings} {several one : Operator} {type : DataType}
    {items : List Literal} (candidates : several.demand = .candidates)
    (value : one.demand = .value) :
    several.Accepts settings type (.list items) ↔
      ∀ item ∈ items, one.Accepts settings type item := by
  -- A candidate that is a list suits no type, and neither does a list by itself.
  simp [Accepts, candidates, value]

/-- Membership has the same leaves as equality, since both look at what lists hold. -/
theorem leavesAt_isIn (path : String) (type : DataType) (value : Value) :
    Operator.isIn.leavesAt path type value = Operator.equal.leavesAt path type value := by
  -- The two demands end alike at every type, and the way there does not depend on the operator.
  have same : Operator.isIn.ends = Operator.equal.ends := by
    funext type
    cases type <;> rfl
  exact leavesAt_congr same path type value

end Operator

namespace Filter

/-- One condition for each of several literals, with the same path and the same operator. -/
def eachOf (path : String) (operator : Operator) (items : List Literal) : List Filter :=
  items.map fun item => .condition path operator (some item) false

variable {settings : Settings} {type reached : DataType} {path : String} {first : Literal}
  {rest : List Literal}

/-- Candidates make sense together when each of them does in a condition of its own. -/
theorem wellFormed_candidates {several one : Operator} (candidates : several.demand = .candidates)
    (value : one.demand = .value) :
    WellFormed settings type (.condition path several (some (.list (first :: rest))) false) ↔
      ∀ item ∈ first :: rest, WellFormed settings type (.condition path one (some item) false) := by
  have plain : several.isQuantifier = false := by
    simp [Operator.isQuantifier_eq, candidates]
  have plainOne : one.isQuantifier = false := by
    simp [Operator.isQuantifier_eq, value]
  constructor
  · intro formed item member
    obtain ⟨-, entered, reached, reaches, accepted⟩ := wellFormed_condition_iff.1 formed
    have each := (Operator.accepts_candidates candidates value).1 accepted
    exact .condition plainOne reaches (each item member)
  · intro each
    -- The first candidate shows where the path leads, and so it does for the others.
    obtain ⟨-, entered, reached, reaches, -⟩ :=
      wellFormed_condition_iff.1 (each first List.mem_cons_self)
    refine .condition plain reaches
      ((Operator.accepts_candidates candidates value).2 fun item member => ?_)
    exact ((wellFormed_reaching_iff reaches).1 (each item member)).2

/-- A group of conditions for several literals makes sense when each of the conditions does. -/
theorem wellFormed_eachOf {combinator : Combinator} {operator : Operator} :
    WellFormed settings type (.group combinator false (eachOf path operator (first :: rest))) ↔
      ∀ item ∈ first :: rest,
        WellFormed settings type (.condition path operator (some item) false) := by
  -- The group is not empty, so only its members count.
  rw [wellFormed_group_iff, eachOf, List.forall_mem_map]
  simp

namespace Interchangeable

/-- Being some candidate is equalling the first one, or the second, and so on. -/
theorem isIn (path : String) (first : Literal) (rest : List Literal) :
    Interchangeable settings type (.condition path .isIn (some (.list (first :: rest))) false)
      (.group .or false (eachOf path .equal (first :: rest))) := by
  refine ⟨(wellFormed_candidates rfl rfl).trans wellFormed_eachOf.symm, fun value => ?_⟩
  have equality : ∀ item : Literal, (condition path .equal (some item) false).reading settings type
      value = (Operator.equal.leavesAt path type value).any fun leaf =>
        item.equals leaf.type leaf.value := by
    intro item
    rw [reading_condition rfl, Bool.bne_false]
    rfl
  rw [reading_condition rfl, Bool.bne_false, Operator.leavesAt_isIn, reading_group, eachOf,
    List.map_map]
  simp only [Function.comp_def, equality]
  -- Leaves are the rows of a table and candidates its columns, of which some cell has to hold.
  generalize Operator.equal.leavesAt path type value = leaves
  have swapped := @Combinator.join_swap .or _ _
    (fun (leaf : Leaf) (item : Literal) => item.equals leaf.type leaf.value) leaves (first :: rest)
  simpa [Combinator.join, Operator.asks, Literal.lists, Literal.items?] using swapped

/-- Where a path has one leaf, being no candidate is differing from each of them. -/
theorem notIn (reaches : Path.Reaches path type false reached) (single : reached.isList = false)
    (first : Literal) (rest : List Literal) :
    Interchangeable settings type (.condition path .notIn (some (.list (first :: rest))) false)
      (.group .and false (eachOf path .notEqual (first :: rest))) := by
  refine ⟨(wellFormed_candidates rfl rfl).trans wellFormed_eachOf.symm, fun value => ?_⟩
  have inequality : ∀ item : Literal, (condition path .notEqual (some item) false).reading settings
      type value = !item.equals reached (Path.endpoint path type value) := by
    intro item
    rw [reading_straight rfl reaches (fun _ => single), Bool.bne_false]
    rfl
  rw [reading_straight rfl reaches (fun _ => single), Bool.bne_false, reading_group, eachOf,
    List.map_map]
  simp only [Function.comp_def, inequality]
  -- All conditions are about one value, so what is denied of some candidate is asked of all.
  generalize Path.endpoint path type value = actual
  simp [Combinator.join, Operator.asks, Literal.lists, Literal.items?, List.not_any_eq_all_not]

end Interchangeable

/-- Membership is equality with some candidate, and where a path has one leaf its denial differs from all of them. -/
theorem compile_membership (settings : Settings) (schema : Schema) (path : String)
    (first : Literal) (rest : List Literal) :
    ((condition path .isIn (some (.list (first :: rest))) false).Compiles settings schema ↔
        ∀ item ∈ first :: rest,
          (condition path .equal (some item) false).Compiles settings schema) ∧
      Alike settings schema (condition path .isIn (some (.list (first :: rest))) false)
        (group .or false (eachOf path .equal (first :: rest))) ∧
      ((condition path .notIn (some (.list (first :: rest))) false).Compiles settings schema ↔
        ∀ item ∈ first :: rest,
          (condition path .notEqual (some item) false).Compiles settings schema) ∧
      ∀ reached, Path.Reaches path schema.type false reached → reached.isList = false →
        Alike settings schema (condition path .notIn (some (.list (first :: rest))) false)
          (group .and false (eachOf path .notEqual (first :: rest))) := by
  -- Each part is an `Interchangeable` fact or the well-formedness behind it.
  refine ⟨?_, (Interchangeable.isIn path first rest).alike, ?_, fun reached reaches single => ?_⟩
  · simp only [compiles_iff_wellFormed]
    exact wellFormed_candidates rfl rfl
  · simp only [compiles_iff_wellFormed]
    exact wellFormed_candidates rfl rfl
  · exact (Interchangeable.notIn reaches single first rest).alike

/-- Scores in lists of lists that are missing or a certain fraction, and a first score that is neither. -/
theorem compile_membership_scores :
    let schema : Schema := ⟨"Match", [("scores", .list (.list .float)), ("best", .list .int)]⟩
    let half : Literal := .float (.finite false ⟨4602678819172646912, by decide⟩)
    (∃ listed either : Predicate,
      (condition "scores" .isIn (some (.list [.null, half])) false).compile .standard schema =
        .ok listed ∧
      (group .or false [condition "scores" .equal (some .null) false,
        condition "scores" .equal (some half) false]).compile .standard schema = .ok either ∧
      ∀ value, listed.testValue value = either.testValue value) ∧
    ∃ unlisted neither : Predicate,
      (condition "best[0]" .notIn (some (.list [.int 2, half])) false).compile .standard schema =
        .ok unlisted ∧
      (group .and false [condition "best[0]" .notEqual (some (.int 2)) false,
        condition "best[0]" .notEqual (some half) false]).compile .standard schema = .ok neither ∧
      ∀ value, unlisted.testValue value = neither.testValue value := by
  -- A list of lists with a null among the candidates, and an item off the lists.
  intro schema half
  have best : Path.Reaches "best[0]" schema.type false .int := ⟨_, rfl, .item rfl rfl .done⟩
  obtain ⟨-, alike, -, -⟩ := compile_membership .standard schema "scores" .null [half]
  obtain ⟨-, -, -, denied⟩ := compile_membership .standard schema "best[0]" (.int 2) [half]
  exact ⟨⟨_, _, rfl, rfl, alike.agree _ _ rfl rfl⟩,
    ⟨_, _, rfl, rfl, (denied _ best rfl).agree _ _ rfl rfl⟩⟩

end Filter

end RecordFilter
