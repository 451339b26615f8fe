import RecordFilter.Proofs.Value.Equality
import RecordFilter.Proofs.Value.Order

/-! Equality of values as an equivalence of those that hold no NaN and no doubled names. -/

namespace RecordFilter

namespace Standing

/-- Standings that come neither before nor after each other are one. -/
theorem eq_of_compare? {here there : Standing} (level : here.compare? there = some .eq) :
    here = there := by
  -- Each kind is ordered in such a way that only the same thing is at the same place.
  cases here <;> cases there <;> first
    | cases level
    | exact congrArg _ (Std.LawfulEqCmp.eq_of_compare (Option.some.inj level))

/-- A standing comes neither before nor after itself. -/
theorem compare?_self (standing : Standing) : standing.compare? standing = some .eq := by
  cases standing <;> exact congrArg some Std.ReflCmp.compare_self

/-- No rational number has the place of an infinity. -/
theorem bound_ne_point (negative : Bool) (quantity : ℚ) : bound negative ≠ point quantity := by
  -- The bound lies strictly above or below every point.
  intro same
  have apart := compare_bound negative quantity
  rw [same, Std.ReflOrd.compare_self] at apart
  cases negative <;> cases apart

end Standing

namespace Value

/-- No number in a value is NaN, and the fields of every record in it keep a rule. -/
inductive Everywhere (rule : List (String × Value) → Prop) : Value → Prop
  | null : Everywhere rule .null
  | scalar {value : Value} (scalar : value.isScalar = true) (known : value.isNaN = false) :
      Everywhere rule value
  | list {items : List Value} (every : ∀ item ∈ items, Everywhere rule item) :
      Everywhere rule (.list items)
  | record {fields : List (String × Value)} (keeps : rule fields)
      (every : ∀ field ∈ fields, Everywhere rule field.2) : Everywhere rule (.record fields)

/-- No name in the value is doubled in any ASCII case, and no number in it is NaN, at every depth. -/
def Unambiguous : Value → Prop :=
  Everywhere Fields.Unlike

/-- No name in the value is exactly that of two fields, and no number in it is NaN, at every depth. -/
def Distinct : Value → Prop :=
  Everywhere fun fields => (Fields.names fields).Nodup

namespace Everywhere

variable {rule : List (String × Value) → Prop} {items : List Value}
  {fields : List (String × Value)}

/-- What holds everywhere in a list does so in its items. -/
theorem item (every : Everywhere rule (.list items)) : ∀ item ∈ items, Everywhere rule item := by
  cases every with
  | scalar scalar => cases scalar
  | list every => exact every

/-- The fields of a record keep the rule. -/
theorem rule_of_record (every : Everywhere rule (.record fields)) : rule fields := by
  cases every with
  | scalar scalar => cases scalar
  | record keeps _ => exact keeps

/-- What holds everywhere in a record does so in what its fields hold. -/
theorem held (every : Everywhere rule (.record fields)) :
    ∀ field ∈ fields, Everywhere rule field.2 := by
  -- A record is no scalar.
  cases every with
  | scalar scalar => cases scalar
  | record _ every => exact every

end Everywhere

variable {left middle right value : Value} {items : List Value}
  {fields others : List (String × Value)}

/-- What a name finds in an unambiguous record is unambiguous, null standing for what is missing. -/
theorem Unambiguous.get? (unambiguous : Unambiguous (.record fields)) (name : String) :
    Unambiguous ((Fields.get? name fields).getD .null) := by
  -- A name that meets no field gives null.
  cases found : Fields.get? name fields with
  | none => exact .null
  | some value =>
    obtain ⟨field, member, -, rfl⟩ := Fields.exists_of_get? found
    exact unambiguous.held field member

/-- A scalar other than NaN is compared by something. -/
theorem exists_standing? (scalar : value.isScalar = true) (known : value.isNaN = false) :
    ∃ standing, value.standing? = some standing := by
  -- Every scalar but NaN has a place in the order.
  cases value with
  | null | list | record => cases scalar
  | float number =>
    cases number with
    | nan => cases known
    | infinite | finite => exact ⟨_, rfl⟩
  | _ => exact ⟨_, rfl⟩

/-- No decimal is compared by the place of an infinity. -/
theorem infinite_standing?_ne (negative : Bool) (number : Decimal) :
    (float (.infinite negative)).standing? ≠ (decimal number).standing? := by
  -- A decimal stands at a point, an infinity at a bound.
  intro same
  have places : some (Standing.number (Standing.bound negative)) =
      some (.number (Standing.point number.value)) := same
  injection places with places
  injection places with places
  exact Standing.bound_ne_point negative number.value places

/-- Values that are apart are compared by different places. -/
theorem Apart.standing?_ne (apart : Apart left right) : left.standing? ≠ right.standing? := by
  cases apart with
  | infinite => exact infinite_standing?_ne _ _
  | decimal => exact (infinite_standing?_ne _ _).symm

/-- Neither of two values comes first exactly when they are compared by the same thing. -/
theorem compare?_eq_iff : left.compare? right = some .eq ↔
    ∃ standing, left.standing? = some standing ∧ right.standing? = some standing := by
  constructor
  · intro level
    obtain ⟨here, first⟩ := exists_standing level
    obtain ⟨there, second⟩ := exists_standing (compare?_eq_comm.1 level)
    obtain rfl := Standing.eq_of_compare? (compare?_standing first second level)
    exact ⟨here, first, second⟩
  · intro given
    rcases given with ⟨standing, first, second⟩
    have together : ¬ Apart left right :=
      fun apart => apart.standing?_ne (first.trans second.symm)
    obtain ⟨order, answered⟩ := (exists_compare?_iff first second).2
      ⟨⟨.eq, standing.compare?_self⟩, together⟩
    -- A standing is level with itself, and the order of values is that of standings.
    have level := compare?_standing first second answered
    rw [standing.compare?_self] at level
    rw [answered, ← level]

/-- Values that are level with the same one are level with each other. -/
theorem compare?_eq_trans (first : left.compare? middle = some .eq)
    (second : middle.compare? right = some .eq) : left.compare? right = some .eq := by
  -- Being equal is standing at the same place.
  rw [compare?_eq_iff] at first second ⊢
  obtain ⟨standing, stands, between⟩ := first
  obtain ⟨other, betweenOther, standsOther⟩ := second
  obtain rfl := Option.some.inj (between.symm.trans betweenOther)
  exact ⟨standing, stands, standsOther⟩

/-- What is equal to a scalar is a scalar. -/
theorem isScalar_of_equal (same : left.equal right = true) (scalar : left.isScalar = true) :
    right.isScalar = true := by
  -- Two values that are equal have an order, and ordered values are scalars.
  rw [equal_eq_compare? scalar, beq_iff_eq] at same
  exact isScalar_of_compare? (compare?_eq_comm.1 same)

/-- What is equal to a list is a list that is equal item by item. -/
theorem exists_list_of_equal (same : (list items).equal right = true) :
    ∃ others, right = .list others ∧
      List.Forall₂ (fun item other => item.equal other = true) items others := by
  -- `Value.equal` keeps the kinds apart.
  cases right with
  | list others => exact ⟨others, rfl, equal_list_iff.1 same⟩
  | _ => cases same

/-- What is equal to a record is a record. -/
theorem exists_record_of_equal (same : (record fields).equal right = true) :
    ∃ others, right = .record others := by
  -- `Value.equal` keeps the kinds apart.
  cases right with
  | record others => exact ⟨others, rfl⟩
  | _ => cases same

/-- Records whose names are distinct are equal when every name finds equal values in them. -/
theorem equal_record_iff_get?
    (distinct : Fields.Unlike fields)
    (distinctOther : Fields.Unlike others) :
    (record fields).equal (.record others) = true ↔ ∀ name,
      ((Fields.get? name fields).getD .null).equal ((Fields.get? name others).getD .null) =
        true := by
  rw [equal_record_iff]
  constructor
  · intro covered name
    obtain ⟨each, eachOther⟩ := covered
    -- A name finds a field of the one record or the other, whose own name finds the same.
    cases found : Fields.get? name fields with
    | some value =>
      obtain ⟨field, member, agree, rfl⟩ := Fields.exists_of_get? found
      have matching := each field member
      rwa [Fields.get?, Fields.lookup?_agree distinctOther agree] at matching
    | none =>
      cases foundOther : Fields.get? name others with
      | none => exact equal.eq_1 .null
      | some value =>
        obtain ⟨field, member, agree, rfl⟩ := Fields.exists_of_get? foundOther
        have matching := eachOther field member
        have absent : Fields.get? field.1 fields = none := by
          rw [Fields.get?, Fields.lookup?_agree distinct agree, ← Fields.get?, found]
        rw [absent] at matching
        exact matching
  · intro each
    constructor
    · intro field member
      have matching := each field.1
      rwa [Fields.get?_of_mem distinct member] at matching
    · intro other member
      have matching := each other.1
      rwa [Fields.get?_of_mem distinctOther member] at matching

/-- Names that differ in every case differ exactly. -/
theorem Unambiguous.toDistinct (unambiguous : Unambiguous value) : Distinct value := by
  -- Equal names would agree, which is already excluded.
  induction unambiguous with
  | null => exact .null
  | scalar scalar known => exact .scalar scalar known
  | list _ ih => exact .list ih
  | record distinct _ ih =>
    refine .record (List.pairwise_map.2 (distinct.imp fun apart same => ?_)) ih
    rw [same, Text.agree_refl] at apart
    cases apart

/-- A value without NaN and names that stand twice is equal to itself. -/
theorem Distinct.equal_refl (distinct : Distinct value) : value.equal value = true := by
  induction distinct with
  | null => exact equal.eq_1 .null
  | scalar scalar known =>
    obtain ⟨standing, stands⟩ := exists_standing? scalar known
    rw [equal_eq_compare? scalar, compare?_eq_iff.2 ⟨standing, stands, stands⟩, beq_self_eq_true]
  | list _ ih => exact equal_list_iff.2 (List.forall₂_same.2 ih)
  | @record fields names _ ih =>
    -- The name of a field finds that field on either side.
    have held : ∀ field ∈ fields, Fields.get? field.1 fields = some field.2 := fun field member =>
      Fields.get?_of_getExact? ((Fields.getExact?_eq_some_iff names).2 member)
    refine equal_record_iff.2 ⟨fun field member => ?_, fun field member => ?_⟩
    · rw [held field member]
      exact ih field member
    · rw [held field member]
      exact ih field member

/-- A value without doubled names and NaN is equal to itself. -/
theorem Unambiguous.equal_refl (unambiguous : Unambiguous value) : value.equal value = true :=
  unambiguous.toDistinct.equal_refl

/-- Values without doubled names and NaN that are equal to the same one are equal to each other. -/
theorem Unambiguous.equal_trans (first : Unambiguous left) (second : Unambiguous middle)
    (third : Unambiguous right) (same : left.equal middle = true)
    (onward : middle.equal right = true) : left.equal right = true := by
  -- The induction is on the first value, to whose parts those of the others are equal.
  induction left using byParts generalizing middle right with
  | null =>
    have absent : middle.isNull = true := (isNull_of_equal same).symm
    rw [eq_null absent] at onward
    exact onward
  | scalar left scalar =>
    have between := isScalar_of_equal same scalar
    rw [equal_eq_compare? scalar, beq_iff_eq] at same ⊢
    rw [equal_eq_compare? between, beq_iff_eq] at onward
    exact compare?_eq_trans same onward
  | list items ih =>
    obtain ⟨others, rfl, each⟩ := exists_list_of_equal same
    obtain ⟨last, rfl, eachLast⟩ := exists_list_of_equal onward
    rw [List.forall₂_iff_get] at each eachLast
    refine equal_list_iff.2 (List.forall₂_iff_get.2 ⟨each.1.trans eachLast.1, ?_⟩)
    intro place inside beside
    have between : place < others.length := each.1 ▸ inside
    exact ih _ (List.get_mem _ _) (first.item _ (List.get_mem _ _))
      (second.item _ (List.get_mem _ _)) (third.item _ (List.get_mem _ _))
      (each.2 place inside between) (eachLast.2 place between beside)
  | record fields ih =>
    obtain ⟨others, rfl⟩ := exists_record_of_equal same
    obtain ⟨last, rfl⟩ := exists_record_of_equal onward
    rw [equal_record_iff_get? first.rule_of_record second.rule_of_record] at same
    rw [equal_record_iff_get? second.rule_of_record third.rule_of_record] at onward
    refine (equal_record_iff_get? first.rule_of_record third.rule_of_record).2 fun name => ?_
    have matching := same name
    have matchingLast := onward name
    cases found : Fields.get? name fields with
    | none =>
      -- What the first record lacks is null in the others, or missing there as well.
      rw [found] at matching
      have absent := (isNull_of_equal matching).symm
      rw [eq_null absent] at matchingLast
      exact matchingLast
    | some value =>
      obtain ⟨field, member, -, rfl⟩ := Fields.exists_of_get? found
      rw [found] at matching
      exact ih field member (first.held field member) (second.get? name) (third.get? name)
        matching matchingLast

/--
Equality is an equivalence of the values that hold no NaN and no names that agree in any case.

It is symmetric on all values.
-/
theorem equal_equivalence :
    Equivalence (fun left right : { value : Value // value.Unambiguous } =>
      left.val.equal right.val = true) ∧
    ∀ left right : Value, left.equal right = right.equal left := by
  -- Reflexivity and transitivity need the unambiguous values, symmetry holds of all.
  refine ⟨⟨fun value => value.property.equal_refl, ?_, ?_⟩, equal_comm⟩
  · intro left right same
    rw [equal_comm]
    exact same
  · intro left middle right same onward
    exact left.property.equal_trans middle.property right.property same onward

/-- An order in three forms, of other case, sequence and kinds of numbers, and with a field left out. -/
theorem equal_equivalence_orders :
    let one : Value := .float (.finite false ⟨4607182418800017408, by decide⟩)
    let first : Value := .record [("Id", .int 1), ("note", .null), ("sums", .list [.int 3])]
    let middle : Value := .record [("SUMS", .list [.decimal ⟨30, 1⟩]), ("id", one)]
    let last : Value := .record [("ID", .decimal ⟨100, 2⟩), ("NOTE", .null), ("Sums", .list [.int 3])]
    first.equal middle = true ∧ middle.equal last = true ∧ first.equal last = true := by
  -- Three records spell and number the same order in three ways.
  intro one first middle last
  have same : first.equal middle = true := by decide +kernel
  have onward : middle.equal last = true := by decide +kernel
  -- Each of them is unambiguous: its names differ beyond case and it holds no NaN.
  have plain : ∀ value : Value, value.isScalar = true → value.isNaN = false →
      Unambiguous (.list [value]) := by
    intro value scalar known
    exact .list (List.forall_mem_singleton.2 (.scalar scalar known))
  have firstPlain : first.Unambiguous := by
    refine .record (by decide) ?_
    simp only [List.forall_mem_cons]
    exact ⟨.scalar rfl rfl, .null, plain _ rfl rfl, nofun⟩
  have middlePlain : middle.Unambiguous := by
    refine .record (by decide) ?_
    simp only [List.forall_mem_cons]
    exact ⟨plain _ rfl rfl, .scalar rfl rfl, nofun⟩
  have lastPlain : last.Unambiguous := by
    refine .record (by decide) ?_
    simp only [List.forall_mem_cons]
    exact ⟨.scalar rfl rfl, .null, plain _ rfl rfl, nofun⟩
  obtain ⟨equivalence, -⟩ := equal_equivalence
  refine ⟨same, onward, ?_⟩
  exact @Equivalence.trans _ _ equivalence ⟨first, firstPlain⟩ ⟨middle, middlePlain⟩
    ⟨last, lastPlain⟩ same onward

end Value

end RecordFilter
