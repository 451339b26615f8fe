import RecordFilter.Proofs.Fields
import RecordFilter.Value.Basic
import Mathlib.Data.List.Induction

/-! Records made by setting fields one after another: the order of names, and what each one finds. -/

namespace RecordFilter

/-- The name of the last field comes after those of the others. -/
theorem Fields.names_concat (before : List (String × α)) (field : String × α) :
    names (before ++ [field]) = names before ++ [field.1] :=
  List.map_append

namespace Record

/-- The last of several fields is set after the others. -/
theorem ofList_concat (fields : List (String × Value)) (field : String × Value) :
    ofList (fields ++ [field]) = (ofList fields).set field.1 field.2 :=
  List.foldl_append

/-- A field that is set last either replaces a value or brings a new name to the end. -/
theorem names_ofList_concat (before : List (String × Value)) (field : String × Value) :
    Fields.names (ofList (before ++ [field])).fields =
      if field.1 ∈ Fields.names (ofList before).fields then Fields.names (ofList before).fields
      else Fields.names (ofList before).fields ++ [field.1] := by
  -- Setting keeps a name in its place or adds it at the end.
  rw [ofList_concat, set, Fields.names_set]

/-- The names stand in the order in which they were set first. -/
theorem names_ofList (fields : List (String × Value)) :
    Fields.names (ofList fields).fields = (Fields.names fields).eraseDups := by
  induction fields using List.reverseRecOn with
  | nil => rfl
  | append_singleton before field ih =>
    rw [names_ofList_concat, ih, Fields.names_concat, List.eraseDups_append]
    simp only [List.mem_eraseDups]
    -- The last name is left out of the others exactly where it is among them.
    by_cases known : field.1 ∈ Fields.names before
    · simp [known, List.removeAll]
    · simp [known, List.removeAll, List.eraseDups_cons]

/-- No name stands twice in a record whose fields were set. -/
theorem nodup_names_ofList (fields : List (String × Value)) :
    (Fields.names (ofList fields).fields).Nodup := by
  induction fields using List.reverseRecOn with
  | nil => exact List.nodup_nil
  | append_singleton before field ih =>
    -- A name is brought to the end only when it is not there yet.
    rw [names_ofList_concat]
    split
    · exact ih
    · rename_i fresh
      rw [← List.concat_eq_append]
      exact ih.concat fresh

/-- A name finds the value that was set under it last. -/
theorem getExact?_ofList (fields : List (String × Value)) (name : String) :
    (ofList fields).getExact? name = fields.reverse.lookup name := by
  -- The last setting hides those before it, so the induction takes the fields from the end.
  induction fields using List.reverseRecOn with
  | nil => rfl
  | append_singleton before field ih =>
    rw [ofList_concat, getExact?, set, Fields.getExact?_set, List.reverse_concat, List.lookup_cons]
    by_cases same : name = field.1
    · rw [if_pos same, beq_iff_eq.2 same]
    · rw [if_neg same, beq_false_of_ne same]
      exact ih

/-- The first name of a record that passes a test is the first one set that does. -/
theorem find?_names_ofList (test : String → Bool) (fields : List (String × Value)) :
    (Fields.names (ofList fields).fields).find? test = (Fields.names fields).find? test := by
  induction fields using List.reverseRecOn with
  | nil => rfl
  | append_singleton before field ih =>
    rw [names_ofList_concat, Fields.names_concat, List.find?_append, ← ih]
    split
    · -- A name that is there already is not found before those that were there.
      rename_i known
      cases found : (Fields.names (ofList before).fields).find? test with
      | some other => rfl
      | none =>
        have fails := List.find?_eq_none.1 found _ known
        simp [fails]
    · rw [List.find?_append]

/-- A name in any case finds its own value, or else that of the first name set that agrees with it. -/
theorem get?_ofList (fields : List (String × Value)) (name : String) :
    (ofList fields).get? name =
      ((ofList fields).getExact? name).or
        ((fields.find? fun field => Text.agree field.1 name).bind fun first =>
          (ofList fields).getExact? first.1) := by
  cases exactly : (ofList fields).getExact? name with
  | some value => exact Fields.get?_of_getExact? exactly
  | none =>
    have missing : name ∉ Fields.names (ofList fields).fields := by
      intro known
      obtain ⟨⟨spelling, value⟩, member, rfl⟩ := List.mem_map.1 known
      have found := (Fields.getExact?_eq_some_iff (nodup_names_ofList fields)).2 member
      cases exactly.symm.trans found
    -- The search goes through the fields of the record, whose order is that of the names set.
    have searched := find?_names_ofList (fun spelling => Text.agree spelling name) fields
    rw [Fields.names, Fields.names, List.find?_map, List.find?_map] at searched
    rw [get?, Fields.get?_of_not_mem missing, Option.none_or]
    cases located : (ofList fields).fields.find? fun field => Text.agree field.1 name with
    | none =>
      have nothing : (fields.find? fun field => Text.agree field.1 name) = none := by
        simpa [Function.comp_def, located] using searched.symm
      rw [nothing]
      rfl
    | some field =>
      obtain ⟨first, earliest, same⟩ : ∃ first, (fields.find? fun field =>
          Text.agree field.1 name) = some first ∧ first.1 = field.1 := by
        simpa [Function.comp_def, located] using searched.symm
      have held := (Fields.getExact?_eq_some_iff (nodup_names_ofList fields)).2
        (List.mem_of_find?_eq_some located)
      rw [earliest, Option.bind_some, same]
      exact held.symm

/-- Two fields of different names are set in either order. -/
theorem getExact?_ofList_swap (before after : List (String × Value)) {first second : String × Value}
    (different : first.1 ≠ second.1) (name : String) :
    (ofList (before ++ second :: first :: after)).getExact? name =
      (ofList (before ++ first :: second :: after)).getExact? name := by
  -- At most one of the two has the name that is looked up.
  have apart : [first].lookup name = none ∨ [second].lookup name = none := by
    by_cases here : name = first.1
    · exact .inr (by simpa [List.lookup_eq_none_iff, here] using different)
    · exact .inl (by simpa [List.lookup_eq_none_iff] using here)
  simp only [getExact?_ofList, List.reverse_append, List.reverse_cons, List.lookup_append]
  rcases apart with none | none <;> simp [none]

/--
A record whose fields are set one after another is a map in the order of the first settings.

Each name finds what was set under it last, and a name in another case what the earliest name that
agrees with it finds now. Settings of different names may change places as far as exact names go.
-/
theorem ofList_last_set (fields : List (String × Value)) :
    (Fields.names (ofList fields).fields).Nodup ∧
    Fields.names (ofList fields).fields = (Fields.names fields).eraseDups ∧
    (∀ name, (ofList fields).getExact? name = fields.reverse.lookup name) ∧
    (∀ name, (ofList fields).get? name =
      ((ofList fields).getExact? name).or
        ((fields.find? fun field => Text.agree field.1 name).bind fun first =>
          (ofList fields).getExact? first.1)) ∧
    ∀ before first second after, fields = before ++ first :: second :: after →
      first.1 ≠ second.1 → ∀ name,
        (ofList (before ++ second :: first :: after)).getExact? name =
          (ofList fields).getExact? name := by
  -- Each part is a lemma about `ofList`; only the swap needs its list taken apart.
  refine ⟨nodup_names_ofList fields, names_ofList fields, getExact?_ofList fields,
    get?_ofList fields, ?_⟩
  rintro before first second after rfl different name
  exact getExact?_ofList_swap before after different name

/-- Names in several cases, one of which is set again after another of them. -/
theorem ofList_last_set_cases :
    let fields : List (String × Value) :=
      -- Three names differ in case alone; the one asked for is met by the first of them.
      [("id", .int 1), ("Ab", .int 2), ("aB", .null), ("Ab", .string "x"), ("AB", .int 3)]
    Fields.names (ofList fields).fields = ["id", "Ab", "aB", "AB"] ∧
      (ofList fields).get? "ab" = some (.string "x") ∧
      ∀ name, (ofList [("id", .int 1), ("Ab", .int 2), ("Ab", .string "x"), ("aB", .null),
        ("AB", .int 3)]).getExact? name = (ofList fields).getExact? name := by
  intro fields
  obtain ⟨-, order, exactly, anyCase, swapped⟩ := ofList_last_set fields
  refine ⟨order, ?_, swapped [("id", .int 1), ("Ab", .int 2)] ("aB", .null) ("Ab", .string "x")
    [("AB", .int 3)] rfl (by decide)⟩
  rw [anyCase, exactly]
  rfl

end Record

end RecordFilter
