import RecordFilter.Proofs.Value.Equivalence

/-! The order of fields in the equality of records: it has no part in it, unless a name is divided. -/

namespace RecordFilter.Record

variable {record other moved : Record}

/-- A name of the record stands in the other one in other cases only, over an equal value and over another. -/
def Divided (record other : Record) : Prop :=
  ∃ field ∈ record.fields, field.1 ∉ Fields.names other.fields ∧
    (∃ spelled ∈ other.fields,
      Text.agree spelled.1 field.1 = true ∧ field.2.equal spelled.2 = true) ∧
    ∃ spelled ∈ other.fields,
      Text.agree spelled.1 field.1 = true ∧ field.2.equal spelled.2 = false

instance (record other : Record) : Decidable (record.Divided other) :=
  inferInstanceAs (Decidable (∃ field ∈ record.fields, _ ∧ (∃ spelled ∈ other.fields, _) ∧ _))

/-- Which names are divided has nothing to do with the order of fields. -/
theorem Divided.perm (divided : record.Divided other) (perm : moved.fields.Perm other.fields) :
    record.Divided moved := by
  -- Being divided speaks of members of the fields, and moving them changes no membership.
  obtain ⟨field, member, missing, ⟨level, here, agree, same⟩, apart, there, agreeToo, differs⟩ :=
    divided
  refine ⟨field, member, fun named => missing ((perm.map Prod.fst).mem_iff.1 named), ?_, ?_⟩
  · exact ⟨level, perm.mem_iff.2 here, agree, same⟩
  · exact ⟨apart, perm.mem_iff.2 there, agreeToo, differs⟩

/-- Where no name is divided, what is equal in one order of the other's fields is equal in all. -/
theorem equal_of_perm (whole : ¬ record.Divided other) (names : (Fields.names other.fields).Nodup)
    (perm : moved.fields.Perm other.fields) (same : record.equal other = true) :
    record.equal moved = true := by
  rw [equal_iff] at same ⊢
  obtain ⟨covered, covers⟩ := same
  refine ⟨fun field member => ?_, fun field member => covers field (perm.mem_iff.1 member)⟩
  have matching := covered field member
  unfold get? at matching ⊢
  by_cases named : field.1 ∈ Fields.names other.fields
  · -- An exact name finds the same field wherever that stands.
    rwa [Fields.get?_perm names perm.symm named] at matching
  · have namedMoved : field.1 ∉ Fields.names moved.fields :=
      fun there => named ((perm.map Prod.fst).mem_iff.1 there)
    rw [Fields.get?_of_not_mem named] at matching
    rw [Fields.get?_of_not_mem namedMoved]
    cases found : moved.fields.find? fun spelled => Text.agree spelled.1 field.1 with
    | none =>
      -- No field agrees with the name in any order, and null stands for what is missing.
      have absent : (other.fields.find? fun spelled => Text.agree spelled.1 field.1) = none := by
        rw [List.find?_eq_none] at found ⊢
        exact fun spelled there => found spelled (perm.mem_iff.2 there)
      rwa [absent] at matching
    | some spelled =>
      cases before : other.fields.find? fun spelled => Text.agree spelled.1 field.1 with
      | none =>
        have there := perm.mem_iff.1 (List.mem_of_find?_eq_some found)
        exact absurd (List.find?_some found) (List.find?_eq_none.1 before spelled there)
      | some first =>
        rw [before] at matching
        -- The first field that agrees may be another one now, but its value is equal as well.
        by_contra differs
        refine whole ⟨field, member, named, ⟨first, List.mem_of_find?_eq_some before, ?_, ?_⟩,
          spelled, perm.mem_iff.1 (List.mem_of_find?_eq_some found), ?_, ?_⟩
        · simpa using List.find?_some before
        · simpa using matching
        · simpa using List.find?_some found
        · simpa using differs

/-- Where a name is divided, the records are not equal in some order of the other's fields. -/
theorem Divided.exists_perm (divided : record.Divided other) :
    ∃ moved : Record, moved.fields.Perm other.fields ∧ record.equal moved = false := by
  obtain ⟨field, member, missing, -, apart, there, agree, differs⟩ := divided
  -- The field of the other value is put in front of all that agree with its name.
  obtain ⟨before, after, split⟩ := List.append_of_mem there
  have perm : (apart :: (before ++ after)).Perm other.fields := split ▸ List.perm_middle.symm
  have missingMoved : field.1 ∉ Fields.names (apart :: (before ++ after)) :=
    fun named => missing ((perm.map Prod.fst).mem_iff.1 named)
  refine ⟨⟨apart :: (before ++ after)⟩, perm, ?_⟩
  by_contra same
  rw [Bool.not_eq_false, equal_iff] at same
  have matching := same.1 field member
  rw [get?, Fields.get?_of_not_mem missingMoved, List.find?_cons, agree] at matching
  exact absurd (matching.symm.trans differs) (by decide)

/-- A record is covered by its own fields in any order when each of their values is equal to itself. -/
theorem equal_perm_self (names : (Fields.names record.fields).Nodup)
    (perm : moved.fields.Perm record.fields) :
    record.equal moved = true ↔ ∀ field ∈ record.fields, field.2.equal field.2 = true := by
  -- With distinct names both records give each name its own value.
  have held : ∀ field ∈ record.fields, record.get? field.1 = some field.2 := fun field member =>
    Fields.get?_of_getExact? ((Fields.getExact?_eq_some_iff names).2 member)
  have heldMoved : ∀ field ∈ record.fields, moved.get? field.1 = some field.2 := by
    intro field member
    have exact := (Fields.getExact?_eq_some_iff names).2 member
    exact Fields.get?_of_getExact? ((Fields.getExact?_perm names perm.symm field.1).symm.trans exact)
  rw [equal_iff]
  constructor
  · intro covered field member
    have matching := covered.1 field member
    rwa [heldMoved field member] at matching
  · intro each
    constructor
    · intro field member
      rw [heldMoved field member]
      exact each field member
    · intro field member
      have there := perm.mem_iff.1 member
      rw [held field there]
      exact each field there

/--
The order of fields matters to equality exactly where a name is divided in a record that is equal in some order.

A record is equal to its own fields in every order, if no number in it is NaN and no name stands
twice in a record of it.
-/
theorem equal_perm_unless_divided (record other : Record)
    (names : (Fields.names record.fields).Nodup) (namesOther : (Fields.names other.fields).Nodup) :
    (∀ moved : Record, moved.fields.Perm record.fields →
      record.equal moved = record.equal record) ∧
    ((Value.record record.fields).Distinct → record.equal record = true) ∧
    ((∀ moved : Record, moved.fields.Perm other.fields →
        record.equal moved = record.equal other) ↔
      ¬ (record.Divided other ∧
        ∃ moved : Record, moved.fields.Perm other.fields ∧ record.equal moved = true)) := by
  refine ⟨fun moved perm => ?_, fun distinct => distinct.equal_refl, ?_, ?_⟩
  · rw [Bool.eq_iff_iff, equal_perm_self names perm, equal_perm_self names (.refl _)]
  · intro steady divided
    obtain ⟨divided, moved, perm, same⟩ := divided
    obtain ⟨apart, permApart, differs⟩ := divided.exists_perm
    rw [steady moved perm, ← steady apart permApart, differs] at same
    cases same
  · intro free moved perm
    have namesMoved : (Fields.names moved.fields).Nodup := (perm.symm.map Prod.fst).nodup namesOther
    -- If they are equal in some order, no name is divided, and every order is as good.
    rw [Bool.eq_iff_iff]
    constructor
    · intro same
      have whole : ¬ record.Divided moved :=
        fun divided => free ⟨divided.perm perm.symm, moved, perm, same⟩
      exact equal_of_perm whole namesMoved perm.symm same
    · intro same
      have whole : ¬ record.Divided other := fun divided => free ⟨divided, other, .refl _, same⟩
      exact equal_of_perm whole namesOther perm same

/-- Names in two cases, which stand in both records, in either order. -/
theorem equal_perm_unless_divided_cases :
    let record : Record := ⟨[("id", .int 1), ("ID", .int 2), ("tags", .list [.string "a"])]⟩
    let other : Record := ⟨[("ID", .int 2), ("id", .int 1), ("Tags", .list [.string "a"])]⟩
    let moved : Record := ⟨[("Tags", .list [.string "a"]), ("id", .int 1), ("ID", .int 2)]⟩
    (Fields.names record.fields).Nodup ∧ (Fields.names other.fields).Nodup ∧
      moved.fields.Perm other.fields ∧ record.equal moved = record.equal other := by
  -- Two names differ in case, but both records have both of them.
  intro record other moved
  have names : (Fields.names record.fields).Nodup := by decide
  have namesOther : (Fields.names other.fields).Nodup := by decide
  have perm : moved.fields.Perm other.fields :=
    (List.reverse_perm [_, _, _]).trans (.refl _)
  obtain ⟨-, -, order⟩ := equal_perm_unless_divided record other names namesOther
  have whole : ¬ record.Divided other := by decide +kernel
  exact ⟨names, namesOther, perm, order.2 (fun divided => whole divided.1) moved perm⟩

/-- A name that the other record has in two cases is compared with the field that comes first. -/
theorem equal_not_order_free :
    ¬ ∀ record other moved : Record, (Value.record record.fields).Distinct →
      (Value.record other.fields).Distinct → moved.fields.Perm other.fields →
      record.equal other = record.equal moved := by
  -- `AB` is missing in the other record, so it is met by whichever spelling comes first there.
  intro free
  let record : Record := ⟨[("ab", .int 1), ("aB", .int 2), ("AB", .int 1)]⟩
  let other : Record := ⟨[("ab", .int 1), ("aB", .int 2)]⟩
  let moved : Record := ⟨[("aB", .int 2), ("ab", .int 1)]⟩
  have plain : ∀ number : Int64, (Value.int number).Distinct := fun number => .scalar rfl rfl
  have distinct : (Value.record record.fields).Distinct := by
    refine .record (by decide) ?_
    simp only [record, List.forall_mem_cons]
    exact ⟨plain _, plain _, plain _, nofun⟩
  have distinctOther : (Value.record other.fields).Distinct := by
    refine .record (by decide) ?_
    simp only [other, List.forall_mem_cons]
    exact ⟨plain _, plain _, nofun⟩
  have equal : record.equal other = true := by decide +kernel
  have differs : record.equal moved = false := by decide +kernel
  have same := free record other moved distinct distinctOther (.swap _ _ _)
  rw [equal, differs] at same
  cases same

end RecordFilter.Record
