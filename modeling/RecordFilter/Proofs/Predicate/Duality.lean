import RecordFilter.Proofs.Predicate.Interchange

/-! Laws of quantifiers: each is the other one denied, and each goes through the groups that join as it does. -/

namespace RecordFilter

namespace Combinator

variable {combinator : Combinator}

/-- The first of several results is applied to the others joined. -/
theorem join_cons (result : Bool) (results : List Bool) :
    combinator.join (result :: results) = combinator.apply result (combinator.join results) := by
  rw [join_eq_foldl, List.foldl_cons, identity_apply, foldl_apply]

/-- Of four results that are applied in pairs the inner two may change places. -/
theorem apply_apply_comm (first second third fourth : Bool) :
    combinator.apply (combinator.apply first second) (combinator.apply third fourth) =
      combinator.apply (combinator.apply first third) (combinator.apply second fourth) := by
  rw [apply_assoc, ← apply_assoc _ second, apply_comm _ second, apply_assoc, ← apply_assoc]

/-- Results that are joined in pairs first are joined to the same end. -/
theorem join_apply (left right : α → Bool) (items : List α) :
    combinator.join (items.map fun item => combinator.apply (left item) (right item)) =
      combinator.apply (combinator.join (items.map left)) (combinator.join (items.map right)) := by
  -- The combinator is associative and commutative, so the joins come apart item by item.
  induction items with
  | nil => cases combinator <;> rfl
  | cons item rest ih => simp only [List.map_cons, join_cons, ih, apply_apply_comm]

/-- A table of results may be joined by its rows first or by its columns. -/
theorem join_swap (cell : α → β → Bool) (rows : List α) (columns : List β) :
    combinator.join (rows.map fun row => combinator.join (columns.map (cell row))) =
      combinator.join (columns.map fun column => combinator.join (rows.map (cell · column))) := by
  -- Each row is taken off every column.
  induction rows with
  | nil =>
    induction columns with
    | nil => rfl
    | cons column rest ih =>
      simp only [List.map_cons, List.map_nil, join_cons] at ih ⊢
      rw [← ih]
      cases combinator <;> rfl
  | cons row rest ih => simp only [List.map_cons, join_cons, join_apply, ih]

end Combinator

namespace Operator

/-- The combinator that joins what a quantifier asks of one element with what it asks of the others. -/
def combinator : Operator → Combinator
  | .all => .and
  | _ => .or

/-- A quantifier joins what is asked of each leaf. -/
theorem among_eq_join (operator : Operator) (ask : Leaf → Bool) (leaves : List Leaf) :
    operator.among ask leaves = operator.combinator.join (leaves.map ask) := by
  -- `all` joins by `and`, every other operator by `or`.
  unfold among combinator
  split <;> simp [Combinator.join]

/-- Asking all leaves is denying that the opposite holds of some. -/
theorem among_all (ask : Leaf → Bool) (leaves : List Leaf) :
    Operator.all.among ask leaves = !Operator.any.among (fun leaf => !ask leaf) leaves :=
  List.all_eq_not_any_not

/-- Operators that go on alike where a path ends have the same leaves. -/
theorem leavesAt_congr {operator other : Operator} (same : operator.ends = other.ends)
    (path : String) (type : DataType) (value : Value) :
    operator.leavesAt path type value = other.leavesAt path type value := by
  -- On the way to its end a path does not depend on the operator.
  have everywhere : ∀ segments, operator.leaves segments = other.leaves segments := by
    intro segments
    induction segments with
    | nil => exact same
    | cons segment rest ih => rw [leaves, leaves, ih]
  unfold leavesAt
  cases Path.read path with
  | ok read => simp only [everywhere]
  | error cause => rfl

/-- Both quantifiers have the same leaves. -/
theorem leavesAt_all (path : String) (type : DataType) (value : Value) :
    Operator.all.leavesAt path type value = Operator.any.leavesAt path type value := by
  -- The two quantifiers differ in how the leaves are asked, not in which leaves there are.
  have same : Operator.all.ends = Operator.any.ends := rfl
  exact leavesAt_congr same path type value

end Operator

namespace Filter

variable {settings : Settings} {type : DataType} {path : String} {operator : Operator}

/-- Two filters compile together or not at all, and their predicates differ on every value. -/
structure Opposed (settings : Settings) (schema : Schema) (first second : Filter) : Prop where
  compiles : first.Compiles settings schema ↔ second.Compiles settings schema
  differ : ∀ one other, first.compile settings schema = .ok one →
    second.compile settings schema = .ok other →
    ∀ value, one.testValue value = !other.testValue value

/-- Turning the result of a filter around has no part in whether it makes sense. -/
theorem wellFormed_negate {filter : Filter} :
    WellFormed settings type filter.negate ↔ WellFormed settings type filter := by
  -- The evidence is for whatever negation.
  have carried : ∀ {filter : Filter},
      WellFormed settings type filter → WellFormed settings type filter.negate := by
    intro filter formed
    cases formed with
    | condition plain reaches accepted => exact .condition plain reaches accepted
    | nested quantifies reaches handed below => exact .nested quantifies reaches handed below
    | group allowed below => exact .group allowed below
  exact ⟨fun formed => negate_negate filter ▸ carried formed, carried⟩

/-- A filter that is turned around says the opposite about every value. -/
theorem reading_negate (filter : Filter) (value : Value) :
    filter.negate.reading settings type value = !filter.reading settings type value := by
  cases filter <;> simp [negate, reading, Bool.bne_not]

/-- That all elements pass is that none of them fails. -/
theorem Interchangeable.dual (path : String) (body : Filter) (negated : Bool) :
    Interchangeable settings type (.nested path .all body negated)
      (Filter.nested path .any body.negate negated).negate := by
  refine ⟨?_, fun value => ?_⟩
  · -- Neither the choice of the quantifier nor a negation is asked about.
    simp only [wellFormed_negate, wellFormed_nested_iff, Operator.isQuantifier]
  · rw [reading_negate, Filter.reading, Filter.reading, Operator.among_all, Operator.leavesAt_all]
    simp only [reading_negate, Bool.not_bne]

/-- What several filters say is what each of them says. -/
theorem readings_eq_map (children : List Filter) (value : Value) :
    readings settings type value children = children.map (reading settings type value) := by
  -- `readings` is the map that the termination checker would not see through.
  induction children with
  | nil => rfl
  | cons child rest ih => rw [readings, ih, List.map_cons]

/-- A group that is not turned around joins what its children say. -/
theorem reading_group (combinator : Combinator) (children : List Filter) (value : Value) :
    (group combinator false children).reading settings type value =
      combinator.join (children.map (reading settings type value)) := by
  rw [reading, readings_eq_map, ← Combinator.join_eq_foldl, Bool.bne_false]

/-- A quantifier that is not turned around joins what its body says about each leaf. -/
theorem reading_nested (path : String) (operator : Operator) (body : Filter) (value : Value) :
    (nested path operator body false).reading settings type value =
      operator.combinator.join ((operator.leavesAt path type value).map fun leaf =>
        body.reading settings leaf.type leaf.value) := by
  -- The quantifier over the leaves is the join of their answers.
  rw [reading, Operator.among_eq_join, Bool.bne_false]

/-- A quantifier makes sense for a group that has children when it does for each of them. -/
theorem wellFormed_nested_group {combinator : Combinator} {first : Filter} {rest : List Filter} :
    WellFormed settings type
        (nested path operator (group combinator false (first :: rest)) false) ↔
      ∀ body ∈ first :: rest, WellFormed settings type (nested path operator body false) := by
  simp only [wellFormed_nested_iff, wellFormed_group_iff]
  constructor
  · intro given body member
    rcases given with ⟨quantifies, inner, hands, _, below⟩
    exact ⟨quantifies, inner, hands, below body member⟩
  · intro each
    -- The path hands the same type to every body, so that of the first will do.
    obtain ⟨quantifies, inner, hands, _⟩ := each first List.mem_cons_self
    refine ⟨quantifies, inner, hands, nofun, fun body member => ?_⟩
    obtain ⟨_, other, again, below⟩ := each body member
    obtain rfl := hands.unique again
    exact below

/-- A quantifier goes through a group that joins as it does itself. -/
theorem Interchangeable.distribute (path : String) (operator : Operator) (first : Filter)
    (rest : List Filter) :
    Interchangeable settings type
      (.nested path operator (.group operator.combinator false (first :: rest)) false)
      (.group operator.combinator false
        ((first :: rest).map fun body => .nested path operator body false)) := by
  refine ⟨?_, fun value => ?_⟩
  · rw [wellFormed_nested_group, wellFormed_group_iff, List.forall_mem_map]
    simp
  · -- Leaves are the rows of a table and bodies its columns.
    rw [reading_nested, reading_group, List.map_map]
    simp only [reading_group, reading_nested, Function.comp_def]
    exact Combinator.join_swap _ _ _

/-- Filters are opposed when one of them may stand for the other turned around. -/
theorem Interchangeable.opposed {schema : Schema} {first second : Filter}
    (same : Interchangeable settings schema.type first second.negate) :
    Opposed settings schema first second := by
  -- `negate` keeps well-formedness and turns the reading round, so the plans differ everywhere.
  refine ⟨?_, fun one other compiled compiledOther value => ?_⟩
  · rw [compiles_iff_wellFormed, compiles_iff_wellFormed, same.formed, wellFormed_negate]
  · obtain ⟨plan, planned, rfl⟩ := Outcome.map_eq_ok.1 compiled
    obtain ⟨planOther, plannedOther, rfl⟩ := Outcome.map_eq_ok.1 compiledOther
    calc plan.holds (.value value)
        = first.reading settings schema.type value := plan_holds first planned value
      _ = !second.reading settings schema.type value := by
        rw [same.reading, reading_negate]
      _ = !planOther.holds (.value value) := by rw [plan_holds second plannedOther value]

/-- Each quantifier denies the other one of what is denied, and goes through the groups of its own kind. -/
theorem compile_quantifiers (settings : Settings) (schema : Schema) (path : String)
    (body first : Filter) (rest : List Filter) (negated : Bool) :
    ((nested path .all body negated).Compiles settings schema ↔
        (nested path .any body negated).Compiles settings schema) ∧
      Opposed settings schema (nested path .all body negated)
        (nested path .any body.negate negated) ∧
      ((nested path .any (group .or false (first :: rest)) false).Compiles settings schema ↔
        ∀ body ∈ first :: rest, (nested path .any body false).Compiles settings schema) ∧
      Alike settings schema (nested path .any (group .or false (first :: rest)) false)
        (group .or false ((first :: rest).map fun body => nested path .any body false)) ∧
      ((nested path .all (group .and false (first :: rest)) false).Compiles settings schema ↔
        ∀ body ∈ first :: rest, (nested path .all body false).Compiles settings schema) ∧
      Alike settings schema (nested path .all (group .and false (first :: rest)) false)
        (group .and false ((first :: rest).map fun body => nested path .all body false)) := by
  -- The duality and the two distributions are `Interchangeable` facts; what is left is that they
  -- compile together.
  refine ⟨?_, (Interchangeable.dual path body negated).opposed, ?_,
    (Interchangeable.distribute path .any first rest).alike, ?_,
    (Interchangeable.distribute path .all first rest).alike⟩
  · simp only [compiles_iff_wellFormed, wellFormed_nested_iff, Operator.isQuantifier]
  · simp only [compiles_iff_wellFormed]
    exact wellFormed_nested_group
  · simp only [compiles_iff_wellFormed]
    exact wellFormed_nested_group

end Filter

end RecordFilter
