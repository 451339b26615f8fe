import RecordFilter.Proofs.Filter.Path
import RecordFilter.Proofs.Predicate.Interchange

/-! A quantifier right inside the same quantifier: together they are one along the joined path. -/

namespace RecordFilter

namespace Path.Leads

variable {before after : List Segment} {type middle inner reached : DataType}
  {entered crossed : Bool}

/-- Segments lead on from where others have led, and lists are entered on either part of the way. -/
theorem append (leads : Leads before type entered middle)
    (further : Leads after middle crossed reached) :
    Leads (before ++ after) type (entered || crossed) reached := by
  -- The first part of the way is rebuilt step by step in front of the second.
  induction leads with
  | done => exact further
  | enter _ ih => exact .enter (ih further)
  | field plain found _ ih => exact .field plain found (ih further)
  | item indexed found _ ih => exact .item indexed found (ih further)

/-- The values beyond joined segments are those beyond the second ones, from each beyond the first. -/
theorem values_append (leads : Leads before type entered middle) (after : List Segment)
    (value : Value) :
    (Route.ofSegments (before ++ after) type).values value =
      ((Route.ofSegments before type).values value).flatMap
        (Route.ofSegments after middle).values := by
  induction leads generalizing value with
  | done => simp [Route.ofSegments, Route.values]
  | enter _ ih =>
    -- A list branches before the first segment, and each branch goes on by itself.
    rw [List.cons_append, Route.ofSegments_list, Route.ofSegments_list, Route.values, Route.values,
      List.flatMap_assoc]
    exact congrArg (List.flatMap · _) (funext ih)
  | field plain found _ ih =>
    rw [List.cons_append, Route.ofSegments_field plain found, Route.ofSegments_field plain found,
      Route.values, Route.values, ih]
  | item indexed found _ ih =>
    rw [List.cons_append, Route.ofSegments_item indexed found, Route.ofSegments_item indexed found]
    simp only [Route.values, ih]

/-- Segments that lead on from what is handed to a body lead there from what was reached before. -/
theorem of_bodyType (handed : middle.bodyType? entered = some inner) (more : after ≠ [])
    (further : Leads after inner crossed reached) :
    ∃ again, Leads after middle again reached ∧ (entered || again) = true := by
  cases middle with
  | list element =>
    -- The list is entered for the sake of the first segment that is still ahead.
    simp only [DataType.bodyType?, Option.some.injEq] at handed
    subst handed
    obtain ⟨segment, rest, rfl⟩ := List.exists_cons_of_ne_nil more
    exact ⟨true, .enter further, Bool.or_true entered⟩
  | _ =>
    simp only [DataType.bodyType?, Option.ite_none_right_eq_some, Option.some.injEq] at handed
    obtain ⟨rfl, rfl⟩ := handed
    exact ⟨crossed, further, rfl⟩

end Path.Leads

namespace Operator

variable {operator : Operator} {type middle inner reached : DataType} {entered crossed : Bool}

/-- Leaves that are handed on lie where the way from each of them leads. -/
theorem values_flatMap_ends (quantifies : operator.isQuantifier = true)
    (handed : middle.bodyType? entered = some inner) {segments : List Segment}
    (more : segments ≠ []) (further : Path.Leads segments inner crossed reached) (value : Value) :
    ((Route.ofSegments segments middle).values value).flatMap (operator.ends reached) =
      (operator.ends middle value).flatMap fun leaf =>
        operator.leaves segments leaf.type leaf.value := by
  have demanded : operator.demand = .body := by
    simpa [isQuantifier_eq] using quantifies
  cases middle with
  | list element =>
    simp only [DataType.bodyType?, Option.some.injEq] at handed
    subst handed
    obtain ⟨segment, rest, rfl⟩ := List.exists_cons_of_ne_nil more
    -- Both sides go through the elements of the list, one before and one after the leaves.
    rw [Route.ofSegments_list, Route.values, Focus.elements_value, List.flatMap_assoc]
    simp only [ends, demanded, List.flatMap_map, further.leaves_eq]
  | _ =>
    simp only [DataType.bodyType?, Option.ite_none_right_eq_some, Option.some.injEq] at handed
    obtain ⟨-, rfl⟩ := handed
    rw [← further.leaves_eq]
    simp [ends, demanded]

/-- The leaves of a joined path are those of its second part, from each leaf of the first. -/
theorem leavesAt_joined (quantifies : operator.isQuantifier = true) {left right : String}
    (one : left ≠ "") (other : right ≠ "") (hands : Path.Hands left type inner)
    (reaches : Path.Reaches right inner crossed reached) (value : Value) :
    operator.leavesAt (left ++ "." ++ right) type value =
      (operator.leavesAt left type value).flatMap fun leaf =>
        operator.leavesAt right leaf.type leaf.value := by
  -- The joined path reads as the two paths' segments in a row; the leaves of the whole are those of
  -- the second path below each leaf of the first.
  obtain ⟨entered, middle, ⟨first, good, leads⟩, handed⟩ := hands
  obtain ⟨second, goodRight, further⟩ := reaches
  have more : second.segments ≠ [] := Path.segments_ne_nil goodRight other
  obtain ⟨again, onward, -⟩ := further.of_bodyType handed more
  have joined : Path.Leads (first.segments ++ second.segments) type (entered || again) reached :=
    leads.append onward
  simp only [leavesAt, Path.read_joined one other good goodRight, good, goodRight]
  rw [joined.leaves_eq, leads.leaves_eq, leads.values_append, List.flatMap_assoc,
    List.flatMap_assoc]
  exact congrArg (List.flatMap · _)
    (funext (values_flatMap_ends quantifies handed more further))

/-- Asking the leaves that branch from others is asking each of these about its branch. -/
theorem among_branches (operator : Operator) (ask : Leaf → Bool) (branch : Leaf → List Leaf)
    (leaves : List Leaf) :
    operator.among ask (leaves.flatMap branch) =
      operator.among (fun leaf => operator.among ask (branch leaf)) leaves := by
  -- The null checks and comparisons ask for some leaf, as `any` does.
  cases operator with
  | all => exact List.all_flatMap
  | _ => exact List.any_flatMap

end Operator

namespace Filter

variable {settings : Settings} {type : DataType} {left right : String} {operator : Operator}
  {body : Filter} {negated : Bool}

/-- Where a quantifier makes sense inside the same one, it does so along the joined path. -/
theorem WellFormed.fuse (one : left ≠ "") (other : right ≠ "")
    (formed : Filter.WellFormed settings type
      (.nested left operator (.nested right operator body false) negated)) :
    Filter.WellFormed settings type (.nested (left ++ "." ++ right) operator body negated) := by
  obtain ⟨quantifies, inner, hands, belowFormed⟩ := wellFormed_nested_iff.1 formed
  obtain ⟨-, core, ⟨crossed, reached, reaches, handed⟩, bodyFormed⟩ :=
    wellFormed_nested_iff.1 belowFormed
  obtain ⟨entered, middle, ⟨first, good, leads⟩, handedFirst⟩ := hands
  obtain ⟨second, goodRight, further⟩ := reaches
  -- One list at least lies on the joined way, so what is reached can be handed on.
  obtain ⟨again, onward, lists⟩ :=
    further.of_bodyType handedFirst (Path.segments_ne_nil goodRight other)
  have joined : Path.Reaches (left ++ "." ++ right) type true reached :=
    ⟨_, Path.read_joined one other good goodRight, lists ▸ leads.append onward⟩
  have handedOn : reached.bodyType? true = some core := by
    cases reached with
    | list element => exact handed
    | _ =>
      simp only [DataType.bodyType?, Option.ite_none_right_eq_some] at handed
      exact handed.2
  exact .nested quantifies joined handedOn bodyFormed

/-- A quantifier inside the same one says what it says along the joined path. -/
theorem reading_fused (one : left ≠ "") (other : right ≠ "")
    (formed : WellFormed settings type
      (nested left operator (nested right operator body false) negated)) (value : Value) :
    (nested left operator (nested right operator body false) negated).reading settings type value =
      (nested (left ++ "." ++ right) operator body negated).reading settings type value := by
  -- Both quantifiers are one operator, so two rounds of asking flatten into one.
  obtain ⟨quantifies, inner, hands, belowFormed⟩ := wellFormed_nested_iff.1 formed
  obtain ⟨-, core, ⟨crossed, reached, reaches, handed⟩, -⟩ := wellFormed_nested_iff.1 belowFormed
  simp only [reading, Bool.bne_false]
  rw [Operator.leavesAt_joined quantifies one other hands reaches, Operator.among_branches]

/-- A compiled quantifier right inside the same one may be replaced by one along the joined path. -/
theorem compile_fused {schema : Schema} {predicate : Predicate} (one : left ≠ "")
    (other : right ≠ "")
    (compiled : (nested left operator (nested right operator body false) negated).compile settings
      schema = .ok predicate) :
    ∃ fused : Predicate,
      (nested (left ++ "." ++ right) operator body negated).compile settings schema = .ok fused ∧
      ∀ value, predicate.testValue value = fused.testValue value := by
  obtain ⟨plan, planned, rfl⟩ := Outcome.map_eq_ok.1 compiled
  have formed : WellFormed settings schema.type
      (nested left operator (nested right operator body false) negated) :=
    (exists_plan _ .root).1 ⟨plan, planned⟩
  obtain ⟨joined, plannedJoined⟩ := (exists_plan _ .root).2 (formed.fuse one other)
  refine ⟨⟨joined, schema.name⟩, Outcome.map_eq_ok.2 ⟨joined, plannedJoined, rfl⟩, fun value => ?_⟩
  -- Both plans answer as their filters read, and these say the same.
  calc plan.holds (.value value)
      = (nested left operator (nested right operator body false) negated).reading settings
          schema.type value := plan_holds _ planned value
    _ = (nested (left ++ "." ++ right) operator body negated).reading settings schema.type value :=
      reading_fused one other formed value
    _ = joined.holds (.value value) := (plan_holds _ plannedJoined value).symm

/-- Shelves in lists of lists, and the tags of all books in the first row of each, asked for at once. -/
theorem compile_fused_shelves :
    let schema : Schema := ⟨"Library", [("shelves", .list (.list (.record "Shelf" [("rows",
      .list (.list (.record "Book" [("tags", .list .string)])))])))]⟩
    ∃ predicate fused : Predicate,
      (nested "shelves" .all (nested "Rows[0].tags" .all
        (condition "" .startsWith (some (.string "b")) true) false) true).compile .standard schema =
          .ok predicate ∧
      (nested "shelves.Rows[0].tags" .all
        (condition "" .startsWith (some (.string "b")) true) true).compile .standard schema =
          .ok fused ∧
      ∀ value, predicate.testValue value = fused.testValue value := by
  -- The outer path ends in a list of lists and the inner one indexes its way on.
  intro schema
  have one : "shelves" ≠ "" := by decide
  have other : "Rows[0].tags" ≠ "" := by decide
  obtain ⟨predicate, compiled⟩ : ∃ predicate,
      (nested "shelves" .all (nested "Rows[0].tags" .all
        (condition "" .startsWith (some (.string "b")) true) false) true).compile .standard schema =
          .ok predicate := ⟨_, rfl⟩
  obtain ⟨fused, compiledFused, agree⟩ := compile_fused one other compiled
  exact ⟨predicate, fused, compiled, compiledFused, agree⟩

end Filter

end RecordFilter
