import RecordFilter.Proofs.Predicate.Duality

/-! Groups obey Boolean algebra: they may be put in another form anywhere in a tree. -/

namespace RecordFilter

namespace Combinator

variable {combinator dual : Combinator}

/-- The combinator that joins denials to the denial of what this one joins, if there is one. -/
def dual? : Combinator → Option Combinator
  | .and => some .or
  | .or => some .and
  | .xor => none

/-- The order of results does not count. -/
theorem join_perm {results others : List Bool} (perm : results.Perm others) :
    combinator.join results = combinator.join others := by
  -- A group's answer is a fold of a commutative and associative operation, so a swap is enough.
  induction perm with
  | nil => rfl
  | cons result _ ih => rw [join_cons, join_cons, ih]
  | swap first second rest =>
    rw [join_cons, join_cons, join_cons, join_cons, ← apply_assoc, ← apply_assoc,
      apply_comm combinator second]
  | trans _ _ ih ihRest => exact ih.trans ihRest

/-- Results in two runs are joined run by run. -/
theorem join_append (results others : List Bool) :
    combinator.join (results ++ others) =
      combinator.apply (combinator.join results) (combinator.join others) := by
  rw [join_eq_foldl, List.foldl_append, ← join_eq_foldl, foldl_apply]

/-- A run of results counts as the one result that it is joined to. -/
theorem join_splice (before inner after : List Bool) :
    combinator.join (before ++ inner ++ after) =
      combinator.join (before ++ combinator.join inner :: after) := by
  rw [join_append, join_append, join_append, join_cons, apply_assoc]

/-- Denying one of the results of an exclusive choice denies the choice. -/
theorem join_xor_not (before after : List Bool) (result : Bool) :
    Combinator.xor.join (before ++ (!result) :: after) =
      !Combinator.xor.join (before ++ result :: after) := by
  -- The parity turns with any one of its answers.
  rw [join_append, join_append, join_cons, join_cons]
  simp [apply]

/-- Denying two of the results of an exclusive choice leaves it as it is. -/
theorem join_xor_not_not (before between after : List Bool) (first second : Bool) :
    Combinator.xor.join (before ++ (!first) :: between ++ (!second) :: after) =
      Combinator.xor.join (before ++ first :: between ++ second :: after) := by
  -- Two turns cancel, one at each of the two places.
  rw [join_xor_not, List.append_assoc, List.cons_append, join_xor_not, Bool.not_not,
    ← List.cons_append, ← List.append_assoc]

/-- Denials are joined by the dual combinator to the denial of what is joined. -/
theorem join_dual (pair : combinator.dual? = some dual) (results : List Bool) :
    dual.join (results.map not) = !combinator.join results := by
  -- De Morgan, one answer at a time; the empty group gives the units.
  induction results with
  | nil => cases combinator <;> cases pair <;> rfl
  | cons result rest ih =>
    rw [List.map_cons, join_cons, join_cons, ih]
    cases combinator <;> cases pair <;> simp [apply]

end Combinator

namespace Filter

/-- A change of a filter made at one place: at its root, in a child of a group or in a body. -/
inductive Within (change : Filter → Filter → Prop) : Filter → Filter → Prop
  | here {filter other : Filter} (changed : change filter other) : Within change filter other
  | child {combinator : Combinator} {negated : Bool} {before after : List Filter}
      {child other : Filter} (below : Within change child other) :
      Within change (.group combinator negated (before ++ child :: after))
        (.group combinator negated (before ++ other :: after))
  | body {path : String} {operator : Operator} {negated : Bool} {body other : Filter}
      (below : Within change body other) :
      Within change (.nested path operator body negated) (.nested path operator other negated)

/-- A group in another form that Boolean algebra gives it. -/
inductive Regrouped : Filter → Filter → Prop
  | permuted {combinator : Combinator} {negated : Bool} {children others : List Filter}
      (perm : children.Perm others) :
      Regrouped (.group combinator negated children) (.group combinator negated others)
  -- A group without children may be an error by itself, so only the others are spliced in.
  | spliced {combinator : Combinator} {negated : Bool} {before inner after : List Filter}
      (filled : inner ≠ []) :
      Regrouped (.group combinator negated (before ++ .group combinator false inner :: after))
        (.group combinator negated (before ++ inner ++ after))
  | splicedNegated {negated : Bool} {before inner after : List Filter} (filled : inner ≠ []) :
      Regrouped (.group .xor negated (before ++ .group .xor true inner :: after))
        (.group .xor (!negated) (before ++ inner ++ after))
  | toggled {negated : Bool} {before between after : List Filter} {first second : Filter} :
      Regrouped (.group .xor negated (before ++ first :: between ++ second :: after))
        (.group .xor negated (before ++ first.negate :: between ++ second.negate :: after))
  | dualized {combinator dual : Combinator} {negated : Bool} {children : List Filter}
      (pair : combinator.dual? = some dual) :
      Regrouped (.group combinator negated children) (.group dual (!negated) (children.map negate))

variable {settings : Settings} {type : DataType} {filter other : Filter}
  {change : Filter → Filter → Prop}

/-- Groups are interchangeable when their children are as many and as good, and join to the same. -/
theorem Interchangeable.groups {combinator second : Combinator} {negated turned : Bool}
    {children others : List Filter} (empty : children = [] ↔ others = [])
    (formed : (∀ child ∈ children, WellFormed settings type child) ↔
      ∀ child ∈ others, WellFormed settings type child)
    (joined : ∀ value,
      (combinator.join (children.map (Filter.reading settings type value)) != negated) =
        (second.join (others.map (Filter.reading settings type value)) != turned)) :
    Interchangeable settings type (.group combinator negated children)
      (.group second turned others) := by
  -- A group is judged by its children's well-formedness, its emptiness and their joined answers
  -- only.
  refine ⟨?_, fun value => ?_⟩
  · rw [wellFormed_group_iff, wellFormed_group_iff, empty, formed]
  · rw [Filter.reading, Filter.reading, readings_eq_map, readings_eq_map, ← Combinator.join_eq_foldl,
      ← Combinator.join_eq_foldl]
    exact joined value

/-- Of a group that is spliced in the children count as the group does. -/
theorem wellFormed_spliced {combinator : Combinator} {negated : Bool}
    {before inner after : List Filter} (filled : inner ≠ []) :
    (∀ child ∈ before ++ .group combinator negated inner :: after,
        WellFormed settings type child) ↔
      ∀ child ∈ before ++ inner ++ after, WellFormed settings type child := by
  -- The inner group has children, so no policy on empty groups is asked about it.
  have inside : WellFormed settings type (.group combinator negated inner) ↔
      ∀ child ∈ inner, WellFormed settings type child := by
    rw [wellFormed_group_iff, and_iff_right fun none => absurd none filled]
  simp only [List.forall_mem_append, List.forall_mem_cons, inside, and_assoc]

/-- Under every type a group may be put in another form. -/
theorem Regrouped.interchangeable (regrouped : Regrouped filter other) (settings : Settings)
    (type : DataType) : Interchangeable settings type filter other := by
  cases regrouped with
  | permuted perm =>
    refine .groups ⟨fun none => ?_, fun none => ?_⟩ ?_ fun value => ?_
    · exact (none ▸ perm).nil_eq.symm
    · exact (none ▸ perm).eq_nil
    · exact forall_congr' fun child => by rw [perm.mem_iff]
    · rw [Combinator.join_perm (perm.map _)]
  | spliced filled =>
    refine .groups (by simp [filled]) (wellFormed_spliced filled) fun value => ?_
    rw [List.map_append, List.map_cons, reading_group, List.map_append, List.map_append,
      Combinator.join_splice]
  | splicedNegated filled =>
    refine .groups (by simp [filled]) (wellFormed_spliced filled) fun value => ?_
    -- The group that is turned around denies what its children are joined to.
    have inside : ∀ inner : List Filter, (group .xor true inner).reading settings type value =
        !Combinator.xor.join (inner.map (reading settings type value)) := by
      intro inner
      rw [← reading_group, ← reading_negate]
      rfl
    rw [List.map_append, List.map_cons, inside, List.map_append, List.map_append,
      Combinator.join_splice, Combinator.join_xor_not, Bool.not_bne, Bool.bne_not]
  | @toggled negated before between after first second =>
    refine .groups (by simp) ?_ fun value => ?_
    · simp only [List.forall_mem_append, List.forall_mem_cons, wellFormed_negate]
    · simp only [List.map_append, List.map_cons, reading_negate, Combinator.join_xor_not_not]
  | dualized pair =>
    refine .groups (by simp) (by simp [wellFormed_negate]) fun value => ?_
    have denied : ∀ children : List Filter,
        (children.map negate).map (reading settings type value) =
          (children.map (reading settings type value)).map not := by
      intro children
      simp only [List.map_map]
      exact List.map_congr_left fun child _ => reading_negate child value
    rw [denied, Combinator.join_dual pair, Bool.not_bne, Bool.bne_not, Bool.not_not]

/-- A change that is harmless under every type is so at every place of a tree. -/
theorem Within.interchangeable
    (harmless : ∀ {filter other : Filter}, change filter other →
      ∀ type, Interchangeable settings type filter other)
    (within : Within change filter other) (type : DataType) :
    Interchangeable settings type filter other := by
  -- From the change upwards, each filter on the way is rebuilt around interchangeable parts.
  induction within generalizing type with
  | here changed => exact harmless changed type
  | child below ih =>
    refine .groups (by simp) ?_ fun value => ?_
    · simp only [List.forall_mem_append, List.forall_mem_cons, (ih type).formed]
    · simp only [List.map_append, List.map_cons, (ih type).reading value]
  | body below ih =>
    refine ⟨?_, fun value => ?_⟩
    · -- A body may have any type in focus, or none if its path leads nowhere.
      simp only [wellFormed_nested_iff, (ih _).formed]
    · simp only [reading, (ih _).reading]

/--
Wherever a group stands in a tree it may be put in another form.

The tree compiles as it did before, and its predicate answers alike on every value.
-/
theorem compile_regrouped (settings : Settings) (schema : Schema)
    (regrouped : Within Regrouped filter other) : Alike settings schema filter other :=
  (Within.interchangeable (fun changed => changed.interchangeable settings) regrouped
    schema.type).alike

/-- Lines of which one of three things is to be said, two of them in a group of their own that is denied. -/
theorem compile_regrouped_lines :
    let schema : Schema := ⟨"Order", [("total", .int),
      ("lines", .list (.record "Line" [("sku", .string), ("qty", .int)]))]⟩
    let unpaid : Filter := condition "total" .isNull none false
    let named : Filter := condition "sku" .notNull none false
    let few : Filter := condition "qty" .lessThan (some (.int 3)) false
    let many : Filter := condition "qty" .greaterThan (some (.int 9)) true
    ∃ nesting flat : Predicate,
      (group .or false [unpaid, nested "lines" .all
        (group .xor false [named, group .xor true [few, many]]) false]).compile .standard schema =
          .ok nesting ∧
      (group .or false [unpaid, nested "lines" .all
        (group .xor true [named, few, many]) false]).compile .standard schema = .ok flat ∧
      ∀ value, nesting.testValue value = flat.testValue value := by
  -- The rewrite happens inside the body of a nested filter, under the second child.
  intro schema unpaid named few many
  have spliced : Regrouped (group .xor false [named, group .xor true [few, many]])
      (group .xor true [named, few, many]) :=
    @Regrouped.splicedNegated false [named] [few, many] [] (List.cons_ne_nil _ _)
  have below : Within Regrouped
      (group .or false [unpaid, nested "lines" .all
        (group .xor false [named, group .xor true [few, many]]) false])
      (group .or false [unpaid, nested "lines" .all (group .xor true [named, few, many]) false]) :=
    @Within.child _ .or false [unpaid] [] _ _ (.body (.here spliced))
  exact ⟨_, _, rfl, rfl, (compile_regrouped .standard schema below).agree _ _ rfl rfl⟩

end Filter

end RecordFilter
