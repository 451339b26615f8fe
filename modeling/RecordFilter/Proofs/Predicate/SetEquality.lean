import Mathlib.Logic.Relation
import RecordFilter.Proofs.Predicate.Likeness
import RecordFilter.Proofs.Value.SetEquality

/-! Collections as sets: without an index no filter sees in which order or how often lists hold their items. -/

namespace RecordFilter

namespace Value.SetEqual

variable {value other : Value}

/-- What lists hold is matched when they are equal as sets, and what is no list holds nothing. -/
theorem entries (same : SetEqual value other) : Matched SetEqual value.entries other.entries := by
  -- Equal sets of items are matched; two scalars have no items at all.
  cases same with
  | list there like back likeBack => exact list_iff.1 (.list there like back likeBack)
  | null | record => exact .of_forall₂ .nil
  | scalar scalar =>
    have none : value.entries = [] := by
      cases value with
      | list items => cases scalar
      | _ => rfl
    rw [none]
    exact .of_forall₂ .nil

/-- What records hold under a name is equal as sets when the records are. -/
theorem member (same : SetEqual value other) (name : String) :
    SetEqual (value.member name) (other.member name) := by
  -- Only records have members, and they agree name by name.
  cases same with
  | record absent each => exact of_getExact? (.record absent each) name
  | null | list => exact .null
  | scalar scalar => exact refl _

/-- Values that are equal as sets are null together. -/
theorem isNull (same : SetEqual value other) : value.isNull = other.isNull := by
  cases same <;> rfl

/-- Fields, elements and questions tell no values apart that are equal as sets. -/
theorem congruence (settings : Settings) : Congruence settings fun _ => SetEqual where
  entries := entries
  member _ same := same.member _
  isNull := isNull
  asks := by
    intro operator type literal value other _ _ same
    -- Scalars are identical, and of what has parts nothing is asked.
    cases same with
    | null | scalar => rfl
    | list | record => exact asks_composite rfl rfl

end Value.SetEqual

namespace Filter

/-- Without indices a predicate answers alike on values equal as sets, and after lists were rearranged. -/
theorem compile_unindexed {settings : Settings} {schema : Schema} {filter : Filter}
    {predicate : Predicate} (compiled : filter.compile settings schema = .ok predicate)
    (unindexed : filter.Unindexed) :
    (∀ value other, Value.SetEqual value other →
        predicate.testValue value = predicate.testValue other) ∧
      ∀ value other, Relation.EqvGen Value.Rearranged value other →
        predicate.testValue value = predicate.testValue other := by
  -- Set equality is a congruence that `entry` does not hold of, which is why indices are excluded.
  obtain ⟨plan, planned, rfl⟩ := Outcome.map_eq_ok.1 compiled
  have formed : WellFormed settings schema.type filter := (exists_plan filter .root).1 ⟨plan, planned⟩
  have alike : ∀ value other, Value.SetEqual value other →
      plan.holds (.value value) = plan.holds (.value other) := by
    intro value other same
    calc plan.holds (.value value)
        = filter.reading settings schema.type value := plan_holds filter planned value
      _ = filter.reading settings schema.type other :=
        (Value.SetEqual.congruence settings).reading_eq (.inl unindexed) formed same
      _ = plan.holds (.value other) := (plan_holds filter planned other).symm
  refine ⟨alike, fun value other rearrangements => ?_⟩
  -- A rearrangement makes set-equal values, and answers are equal along a chain of them.
  induction rearrangements with
  | rel value other rearranged => exact alike value other rearranged.setEqual
  | refl value => rfl
  | symm value other _ ih => exact ih.symm
  | trans value between other _ _ ih ihRest => exact ih.trans ihRest

/-- Shelves of books in which the tags of one are repeated, and the shelves are in another order. -/
theorem compile_unindexed_shelves :
    let schema : Schema := ⟨"Library", [("shelves", .list (.record "Shelf" [("books",
      .list (.record "Book" [("tags", .list .string)]))]))]⟩
    let book (tags : List String) : Value := .record [("tags", .list (tags.map .string))]
    let shelf (tags : List String) : Value := .record [("books", .list [book tags])]
    ∃ predicate : Predicate,
      (nested "Shelves" .all (group .xor false [
        condition "books.tags" .equal (some (.string "b")) false,
        nested "books" .any (condition "tags" .isNull none false) true]) false).compile .standard
          schema = .ok predicate ∧
      predicate.testValue (.record [("shelves", .list [shelf ["a", "b"], shelf []])]) =
        predicate.testValue (.record [("shelves", .list [shelf [], shelf ["b", "a", "b"]])]) := by
  -- First the tags of one book are rearranged and repeated, then the shelves swapped.
  intro schema book shelf
  have tags : Value.Rearranged (.list [.string "a", .string "b"])
      (.list [.string "b", .string "a", .string "b"]) :=
    .here fun item => by simp only [List.mem_cons]; tauto
  have repeated : Value.Rearranged (shelf ["a", "b"]) (shelf ["b", "a", "b"]) :=
    @Value.Rearranged.field [] [] "books" _ _
      (@Value.Rearranged.item [] [] _ _ (@Value.Rearranged.field [] [] "tags" _ _ tags))
  have within : Value.Rearranged (.record [("shelves", .list [shelf ["a", "b"], shelf []])])
      (.record [("shelves", .list [shelf ["b", "a", "b"], shelf []])]) :=
    @Value.Rearranged.field [] [] "shelves" _ _ (@Value.Rearranged.item [] [shelf []] _ _ repeated)
  have ordered : Value.Rearranged (.record [("shelves", .list [shelf ["b", "a", "b"], shelf []])])
      (.record [("shelves", .list [shelf [], shelf ["b", "a", "b"]])]) :=
    @Value.Rearranged.field [] [] "shelves" _ _
      (.here fun item => (List.Perm.swap _ _ []).mem_iff)
  have unindexed : (nested "Shelves" .all (group .xor false [
      condition "books.tags" .equal (some (.string "b")) false,
      nested "books" .any (condition "tags" .isNull none false) true]) false).Unindexed := by
    refine .nested (.of_read rfl (by decide)) (.group fun child member => ?_)
    simp only [List.mem_cons, List.not_mem_nil, or_false] at member
    rcases member with rfl | rfl
    · exact .condition (.of_read rfl (by decide))
    · exact .nested (.of_read rfl (by decide)) (.condition (.of_read rfl (by decide)))
  refine Exists.imp (fun predicate compiled => ⟨compiled, ?_⟩) ⟨_, rfl⟩
  exact (compile_unindexed compiled unindexed).2 _ _
    (.trans _ _ _ (.rel _ _ within) (.rel _ _ ordered))

end Filter

end RecordFilter
