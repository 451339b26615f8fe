import RecordFilter.Proofs.Predicate.Likeness
import RecordFilter.Proofs.Value.Declared
import Mathlib.Logic.Relation

/-! Predicates see only what the schema declares: values that agree in it are answered alike. -/

namespace RecordFilter

namespace Value

namespace Agree

variable {element type : DataType} {value other : Value}

/-- Lists of one length that agree at each place agree item by item. -/
theorem forall₂_items {items others : List Value} (length : items.length = others.length)
    (each : ∀ (place : Nat) (item other : Value), items[place]? = some item →
      others[place]? = some other → Agree element item other) :
    List.Forall₂ (Agree element) items others := by
  -- `Agree` speaks of places; `Forall₂` wants the two lists side by side.
  refine List.forall₂_iff_get.2 ⟨length, fun place inside insideOther => ?_⟩
  exact each place _ _ (List.getElem?_eq_getElem inside) (List.getElem?_eq_getElem insideOther)

/-- The items of lists that agree correspond to each other. -/
theorem entries (alike : Agree (.list element) value other) :
    Matched (Agree element) value.entries other.entries := by
  -- The two lists agree item by item; two values that are no lists have no entries at all.
  cases alike with
  | scalar scalar => cases scalar
  | list length each => exact .of_forall₂ (forall₂_items length each)
  | noList single =>
    have none : value.entries = [] := by
      cases value with
      | list items => exact absurd rfl (single items)
      | _ => rfl
    rw [none]
    exact .of_forall₂ .nil

/-- What records that agree hold under a declared name agrees. -/
theorem member {name sought field : String} {declared : List (String × DataType)}
    (found : Fields.lookup? sought declared = some (field, type))
    (alike : Agree (.record name declared) value other) :
    Agree type (value.member field) (other.member field) := by
  -- The lookup ends in a declared spelling, for which `Agree.record` answers.
  cases alike with
  | scalar scalar => cases scalar
  | record each => exact each sought field type found
  | noRecord plain => exact refl type _

/-- The items at a place of lists that agree do so too, and where one is missing so is the other. -/
theorem entry (place : UInt64) (alike : Agree (.list element) value other) :
    Agree element (value.entry place) (other.entry place) := by
  -- Past the end both sides give null, which agrees with itself.
  cases alike with
  | scalar scalar => cases scalar
  | list length each =>
    exact forall₂_getElem? (forall₂_items length each) (refl element .null) place.toNat
  | noList single => exact refl element _

/-- Values that agree are null together. -/
theorem isNull (alike : Agree type value other) : value.isNull = other.isNull := by
  cases alike <;> rfl

/-- No filter tells values apart that agree. -/
theorem indiscernible (settings : Settings) : Indiscernible settings Agree where
  entries := entries
  member := member
  entry := entry
  isNull := isNull
  asks := by
    intro operator type literal value other single accepted alike
    -- Only scalars are asked anything, and on those `Agree` is equality.
    cases alike with
    | scalar | noRecord => rfl
    | list | noList => exact absurd rfl (single _)
    | record => exact asks_composite rfl rfl

end Agree

end Value

namespace Filter

/-- Compiled filters answer alike wherever values agree in what the schema declares, and after any number of edits. -/
theorem compile_declared {settings : Settings} {schema : Schema} {filter : Filter}
    {predicate : Predicate} (compiled : filter.compile settings schema = .ok predicate) :
    (∀ value other, Value.Agree schema.type value other →
        predicate.testValue value = predicate.testValue other) ∧
      ∀ value other, Relation.EqvGen (Value.Edit schema.type) value other →
        predicate.testValue value = predicate.testValue other := by
  obtain ⟨plan, planned, rfl⟩ := Outcome.map_eq_ok.1 compiled
  have formed : WellFormed settings schema.type filter := (exists_plan filter .root).1 ⟨plan, planned⟩
  have agreeing : ∀ value other, Value.Agree schema.type value other →
      plan.holds (.value value) = plan.holds (.value other) := by
    intro value other alike
    calc plan.holds (.value value)
        = filter.reading settings schema.type value := plan_holds filter planned value
      _ = filter.reading settings schema.type other :=
        (Value.Agree.indiscernible settings).reading_eq formed alike
      _ = plan.holds (.value other) := (plan_holds filter planned other).symm
  refine ⟨agreeing, fun value other edits => ?_⟩
  -- Each edit leaves values that agree, so the answer is carried along all of them.
  induction edits with
  | rel value other edit => exact agreeing value other edit.agree
  | refl value => rfl
  | symm value other _ ih => exact ih.symm
  | trans value between other _ _ ih ihRest => exact ih.trans ihRest

/-- An order of which a line lacks its name, and one with a colour in which that name is null. -/
theorem compile_declared_order :
    let schema : Schema := ⟨"Order", [("id", .int),
      ("lines", .list (.record "Line" [("sku", .string), ("qty", .int)]))]⟩
    ∃ predicate : Predicate,
      (nested "lines" .any (group .and false [condition "SKU" .isNull none false,
        condition "qty" .greaterThan (some (.int 1)) false]) false).compile .standard schema =
          .ok predicate ∧
      predicate.testValue (.record [("lines", .list [.record [("qty", .int 2)]])]) =
        predicate.testValue (.record [("color", .string "red"),
          ("lines", .list [.record [("qty", .int 2), ("sku", .null)]])]) := by
  -- First the line's absent `sku` is written as null, then a field of no declared name is added.
  intro schema
  have named : Value.Edit schema.type (.record [("lines", .list [.record [("qty", .int 2)]])])
      (.record [("lines", .list [.record [("qty", .int 2), ("sku", .null)]])]) := by
    have line : Value.Edit (.record "Line" [("sku", .string), ("qty", .int)])
        (.record [("qty", .int 2)]) (.record [("qty", .int 2), ("sku", .null)]) :=
      @Value.Edit.absent "Line" "sku" _ _ rfl
    have lines : Value.Edit (.list (.record "Line" [("sku", .string), ("qty", .int)]))
        (.list [.record [("qty", .int 2)]]) (.list [.record [("qty", .int 2), ("sku", .null)]]) :=
      @Value.Edit.item _ [_] 0 _ _ rfl line
    exact @Value.Edit.field _ "lines" "lines" _ _ [_] _ _ rfl rfl lines
  have coloured : Value.Edit schema.type
      (.record [("lines", .list [.record [("qty", .int 2), ("sku", .null)]])])
      (.record [("color", .string "red"),
        ("lines", .list [.record [("qty", .int 2), ("sku", .null)]])]) :=
    .undeclared rfl
  -- The two edits make one chain, which `compile_declared` crosses at once.
  refine Exists.imp (fun predicate compiled => ⟨compiled, ?_⟩) ⟨_, rfl⟩
  exact (compile_declared compiled).2 _ _ (.trans _ _ _ (.rel _ _ named) (.rel _ _ coloured))

end Filter

end RecordFilter
