import RecordFilter.Proofs.Fields
import RecordFilter.Proofs.Value.Quantity

/-! Values whose lists are taken for sets: the same up to the order and the repetition of what lists hold. -/

namespace RecordFilter

namespace Value

/-- The same value when lists count as sets of what they hold, at every depth. -/
inductive SetEqual : Value → Value → Prop
  | null : SetEqual .null .null
  | scalar {value : Value} (scalar : value.isScalar = true) : SetEqual value value
  -- Each item of either list has a twin in the other one.
  | list {items others : List Value} {twin twinBack : Value → Value}
      (there : ∀ item ∈ items, twin item ∈ others)
      (like : ∀ item ∈ items, SetEqual item (twin item))
      (back : ∀ other ∈ others, twinBack other ∈ items)
      (likeBack : ∀ other ∈ others, SetEqual (twinBack other) other) :
      SetEqual (.list items) (.list others)
  -- Names are looked up exactly, and what a name finds counts rather than where it stands.
  | record {fields others : List (String × Value)}
      (absent : ∀ name, Fields.getExact? name fields = none ↔ Fields.getExact? name others = none)
      (each : ∀ name value other, Fields.getExact? name fields = some value →
        Fields.getExact? name others = some other → SetEqual value other) :
      SetEqual (.record fields) (.record others)

/-- One list, at whatever depth, is replaced by one with the same items in some order and number. -/
inductive Rearranged : Value → Value → Prop
  | here {items others : List Value} (same : ∀ item, item ∈ items ↔ item ∈ others) :
      Rearranged (.list items) (.list others)
  | item {before after : List Value} {item other : Value} (below : Rearranged item other) :
      Rearranged (.list (before ++ item :: after)) (.list (before ++ other :: after))
  | field {before after : List (String × Value)} {name : String} {value other : Value}
      (below : Rearranged value other) :
      Rearranged (.record (before ++ (name, value) :: after))
        (.record (before ++ (name, other) :: after))

namespace SetEqual

variable {value other : Value} {items others : List Value} {fields : List (String × Value)}

/-- Lists are equal as sets when each item of either is equal to some item of the other one. -/
theorem list_iff :
    SetEqual (.list items) (.list others) ↔
      (∀ item ∈ items, ∃ other ∈ others, SetEqual item other) ∧
        ∀ other ∈ others, ∃ item ∈ items, SetEqual item other := by
  constructor
  · intro same
    cases same with
    | scalar scalar => cases scalar
    | list there like back likeBack =>
      exact ⟨fun item member => ⟨_, there item member, like item member⟩,
        fun other member => ⟨_, back other member, likeBack other member⟩⟩
  · intro given
    rcases given with ⟨forth, back⟩
    -- A twin is chosen for each item, and whatever is no item needs none.
    choose! twin there like using forth
    choose! twinBack thereBack likeBack using back
    exact .list there like thereBack likeBack

/-- What records that are equal as sets hold under a name is so too, null standing for what is missing. -/
theorem of_getExact? {others : List (String × Value)}
    (same : SetEqual (.record fields) (.record others)) (name : String) :
    SetEqual ((Fields.getExact? name fields).getD .null)
      ((Fields.getExact? name others).getD .null) := by
  -- Both records have the name or neither has, and an absent field counts as null.
  cases same with
  | scalar scalar => cases scalar
  | record absent each =>
    cases held : Fields.getExact? name fields with
    | none =>
      rw [(absent name).1 held]
      exact .null
    | some value =>
      cases heldOther : Fields.getExact? name others with
      | none =>
        rw [(absent name).2 heldOther] at held
        cases held
      | some other => exact each name value other held heldOther

/-- Every value is the same as itself. -/
theorem refl (value : Value) : SetEqual value value := by
  -- By the parts of the value, each set-equal to itself.
  induction value using byParts with
  | null => exact .null
  | scalar value scalar => exact .scalar scalar
  | list items ih => exact .list (fun _ member => member) ih (fun _ member => member) ih
  | record fields ih =>
    refine .record (fun _ => Iff.rfl) fun name value other held heldOther => ?_
    obtain rfl := Option.some.inj (held.symm.trans heldOther)
    exact ih _ (Fields.mem_of_getExact? held)

end SetEqual

/-- Rearranging a list at whatever depth leaves the same value, lists taken for sets. -/
theorem Rearranged.setEqual {value other : Value} (rearranged : Rearranged value other) :
    SetEqual value other := by
  induction rearranged with
  | here same =>
    exact SetEqual.list_iff.2 ⟨fun item member => ⟨item, (same item).1 member, .refl item⟩,
      fun item member => ⟨item, (same item).2 member, .refl item⟩⟩
  | @item before after item other _ ih =>
    -- The items around the one that changes are their own twins.
    simp only [SetEqual.list_iff, List.mem_append, List.mem_cons]
    constructor
    · rintro first (member | rfl | member)
      · exact ⟨first, .inl member, .refl first⟩
      · exact ⟨other, .inr (.inl rfl), ih⟩
      · exact ⟨first, .inr (.inr member), .refl first⟩
    · rintro second (member | rfl | member)
      · exact ⟨second, .inl member, .refl second⟩
      · exact ⟨item, .inr (.inl rfl), ih⟩
      · exact ⟨second, .inr (.inr member), .refl second⟩
  | @field before after name value other _ ih =>
    -- A name finds either the field that changes, or one that is the same in both records.
    have found : ∀ sought,
        Fields.getExact? sought (before ++ (name, value) :: after) =
          Fields.getExact? sought (before ++ (name, other) :: after) ∨
        Fields.getExact? sought (before ++ (name, value) :: after) = some value ∧
          Fields.getExact? sought (before ++ (name, other) :: after) = some other := by
      intro sought
      rcases Fields.find?_replaced (fun spelling => spelling == sought) before after value other with
        same | ⟨here, there⟩
      · exact .inl (congrArg (Option.map Prod.snd) same)
      · exact .inr ⟨congrArg (Option.map Prod.snd) here, congrArg (Option.map Prod.snd) there⟩
    refine .record (fun sought => ?_) fun sought held heldOther here there => ?_
    · rcases found sought with same | ⟨here, there⟩
      · rw [same]
      · simp [here, there]
    · rcases found sought with same | ⟨first, second⟩
      · obtain rfl := Option.some.inj (here.symm.trans (same.trans there))
        exact .refl held
      · obtain rfl := Option.some.inj (here.symm.trans first)
        obtain rfl := Option.some.inj (there.symm.trans second)
        exact ih

end Value

end RecordFilter
