import RecordFilter.Fields
import Mathlib.Data.List.Find
import Mathlib.Data.List.Nodup
import Mathlib.Data.List.Pairwise
import Mathlib.Data.List.Perm.Basic

/-! What a lookup by exact name finds, and what changes of the other fields leave as it was. -/

namespace RecordFilter.Fields

/-- The names of fields are pairwise different in any ASCII case. -/
abbrev Unlike (fields : List (String × α)) : Prop :=
  fields.Pairwise fun first second => Text.agree first.1 second.1 = false

variable {name : String} {fields others : List (String × α)} {value : α}

/-- What stands under a name stands there in some field. -/
theorem mem_of_getExact? (found : getExact? name fields = some value) : (name, value) ∈ fields := by
  -- The search returns a field of the list, whose name passed the test.
  obtain ⟨⟨spelling, held⟩, located, rfl⟩ := Option.map_eq_some_iff.1 found
  have named : spelling = name := by simpa using List.find?_some located
  exact named ▸ List.mem_of_find?_eq_some located

/-- Where no name is repeated, every field is the one that its name finds. -/
theorem getExact?_eq_some_iff (distinct : (names fields).Nodup) :
    getExact? name fields = some value ↔ (name, value) ∈ fields := by
  refine ⟨mem_of_getExact?, fun member => ?_⟩
  induction fields with
  | nil => exact absurd member List.not_mem_nil
  | cons field rest ih =>
    obtain ⟨fresh, distinctRest⟩ := List.nodup_cons.1 distinct
    rcases List.mem_cons.1 member with rfl | later
    · simp [getExact?, lookupExact?]
    · -- The first field has another name, since this one comes later.
      have different : field.1 ≠ name := by
        rintro rfl
        exact fresh (List.mem_map.2 ⟨_, later, rfl⟩)
      simpa [getExact?, lookupExact?, different] using ih distinctRest later

/-- The order of fields with distinct names has no part in what a name finds. -/
theorem getExact?_perm (distinct : (names fields).Nodup) (perm : fields.Perm others) (name : String) :
    getExact? name fields = getExact? name others := by
  -- Membership says all about such a lookup, and it does not depend on the order.
  have distinctOther : (names others).Nodup := (perm.map Prod.fst).nodup distinct
  refine Option.ext fun value => ?_
  rw [getExact?_eq_some_iff distinct, getExact?_eq_some_iff distinctOther, perm.mem_iff]

/-- Fields of other names have no part in what a name finds. -/
theorem getExact?_filter {keep : String → Bool} (kept : keep name = true) :
    getExact? name (fields.filter fun field => keep field.1) = getExact? name fields := by
  -- A field that is left out has another name, so a search for this one passes over it.
  have same : (fun field : String × α => decide (keep field.1 = true ∧ (field.1 == name) = true)) =
      fun field => field.1 == name := by
    funext field
    by_cases named : field.1 = name <;> simp [named, kept]
  rw [getExact?, lookupExact?, List.find?_filter, same]
  rfl

/-- What a lookup finds stands under its own spelling as well. -/
theorem lookupExact?_of_lookup? {sought : String} {field : String × α}
    (found : lookup? sought fields = some field) : lookupExact? field.1 fields = some field := by
  unfold lookup? at found
  cases exactly : lookupExact? sought fields with
  | some entry =>
    rw [exactly] at found
    obtain rfl : entry = field := Option.some.inj found
    have named : entry.1 = sought := by simpa using List.find?_some exactly
    rw [named, exactly]
  | none =>
    rw [exactly] at found
    -- An earlier field of the same spelling would agree with what is sought just as well.
    obtain ⟨agrees, before, after, rfl, none⟩ := List.find?_eq_some_iff_append.1 found
    refine List.find?_eq_some_iff_append.2 ⟨by simp, before, after, rfl, fun other member => ?_⟩
    have disagrees := none other member
    by_contra same
    simp only [Bool.not_eq_eq_eq_not, Bool.not_true, Bool.not_eq_false, beq_iff_eq] at same
    rw [same, agrees] at disagrees
    exact absurd disagrees (by decide)

/-- A spelling belongs to one field at most of those that lookups find. -/
theorem lookup?_unique {sought other spelling : String} {first second : α}
    (found : lookup? sought fields = some (spelling, first))
    (again : lookup? other fields = some (spelling, second)) : first = second := by
  -- The spelling that both lookups return finds one field exactly.
  have exact : lookupExact? spelling fields = some (spelling, first) :=
    lookupExact?_of_lookup? found
  have exactAgain : lookupExact? spelling fields = some (spelling, second) :=
    lookupExact?_of_lookup? again
  simpa using exact.symm.trans exactAgain

/-- A name that a field has is found in its own spelling. -/
theorem exists_lookup? (named : name ∈ names fields) :
    ∃ value, lookup? name fields = some (name, value) := by
  obtain ⟨field, member, rfl⟩ := List.mem_map.1 named
  -- Some field has the name exactly, so the search in other cases is not made.
  have found : (lookupExact? field.1 fields).isSome = true :=
    List.find?_isSome.2 ⟨field, member, beq_self_eq_true field.1⟩
  obtain ⟨⟨spelling, value⟩, exactly⟩ := Option.isSome_iff_exists.1 found
  obtain rfl : spelling = field.1 := by simpa using List.find?_some exactly
  exact ⟨value, by rw [lookup?, exactly]; rfl⟩

/-- A field that a lookup finds agrees with what was sought. -/
theorem agree_of_lookup? {sought : String} (found : lookup? sought fields = some (name, value)) :
    Text.agree name sought = true := by
  -- Either the exact name was found or the first that agrees, and both agree.
  unfold lookup? lookupExact? at found
  cases exactly : fields.find? fun field => field.1 == sought with
  | some field =>
    rw [exactly] at found
    obtain rfl := Option.some.inj found
    have named : name = sought := by simpa using List.find?_some exactly
    rw [named]
    exact Text.agree_refl sought
  | none =>
    rw [exactly] at found
    have cased : (fields.find? fun field => Text.agree field.1 sought) = some (name, value) := found
    simpa using List.find?_some cased

/-- Of names that are pairwise different in any case, those that agree are the same. -/
theorem eq_of_agree {other : String}
    (distinct : Unlike fields)
    (here : name ∈ names fields) (there : other ∈ names fields)
    (agree : Text.agree name other = true) : name = other := by
  obtain ⟨first, member, rfl⟩ := List.mem_map.1 here
  obtain ⟨second, memberOther, rfl⟩ := List.mem_map.1 there
  have symm : Std.Symm fun first second : String × α => Text.agree first.1 second.1 = false :=
    ⟨fun _ _ apart => (Text.agree_comm _ _).trans apart⟩
  -- Two entries with different names would be told apart in every case.
  by_contra different
  have apart : Text.agree first.1 second.1 = false :=
    distinct.forall member memberOther fun same => different (congrArg Prod.fst same)
  rw [agree] at apart
  cases apart

/-- Of names that are pairwise different in any case, one at most agrees with what is sought. -/
theorem lookup?_of_distinct {sought : String}
    (distinct : Unlike fields) :
    lookup? sought fields = fields.find? fun field => Text.agree field.1 sought := by
  unfold lookup? lookupExact?
  cases exactly : fields.find? fun field => field.1 == sought with
  | none => rfl
  | some field =>
    obtain ⟨named, before, after, rfl, -⟩ := List.find?_eq_some_iff_append.1 exactly
    have same : field.1 = sought := by simpa using named
    -- No field before the one that was found agrees with its name.
    have none : before.find? (fun other => Text.agree other.1 sought) = none := by
      refine List.find?_eq_none.2 fun other member => ?_
      have apart := (List.pairwise_append.1 distinct).2.2 other member field List.mem_cons_self
      rw [← same, apart]
      decide
    rw [List.find?_append, none, Option.none_or, List.find?_cons_of_pos]
    · rfl
    · rw [same]
      exact Text.agree_refl sought

/-- Where names are pairwise different in any case, a lookup does not look at the case. -/
theorem lookup?_agree {sought other : String}
    (distinct : Unlike fields)
    (agree : Text.agree sought other = true) : lookup? sought fields = lookup? other fields := by
  -- Agreement passes from one of the two names to the other.
  rw [lookup?_of_distinct distinct, lookup?_of_distinct distinct]
  refine List.find?_congr fun field _ => ?_
  rw [Bool.eq_iff_iff]
  exact ⟨fun named => Text.agree_trans named agree,
    fun named => Text.agree_trans named ((Text.agree_comm _ _).trans agree)⟩

/-- What stands under a name in any case is what some field of such a name holds. -/
theorem exists_of_get? {sought : String} (found : get? sought fields = some value) :
    ∃ field ∈ fields, Text.agree field.1 sought = true ∧ field.2 = value := by
  -- What the lookup returns stands in the list and agrees with the name.
  obtain ⟨field, located, held⟩ := Option.map_eq_some_iff.1 found
  exact ⟨field, mem_of_lookup? located, agree_of_lookup? located, held⟩

/-- Where names are pairwise different in any case, the name of a field finds that field. -/
theorem get?_of_mem {field : String × α}
    (distinct : Unlike fields)
    (member : field ∈ fields) : get? field.1 fields = some field.2 := by
  have searched : (fields.find? fun other => Text.agree other.1 field.1) = some field := by
    obtain ⟨before, after, rfl⟩ := List.append_of_mem member
    refine List.find?_eq_some_iff_append.2 ⟨Text.agree_refl field.1, before, after, rfl, ?_⟩
    -- An earlier field of such a name would agree with this one.
    intro other earlier
    have apart := (List.pairwise_append.1 distinct).2.2 other earlier field List.mem_cons_self
    rw [apart]
    rfl
  rw [get?, lookup?_of_distinct distinct, searched]
  rfl

/-- What stands under exactly a name is what the name finds. -/
theorem get?_of_getExact? (found : getExact? name fields = some value) :
    get? name fields = some value := by
  -- An exact name is looked for first.
  obtain ⟨field, exactly, rfl⟩ := Option.map_eq_some_iff.1 found
  rw [get?, lookup?, exactly]
  rfl

/-- The order of fields with distinct names has no part in what one of the names finds. -/
theorem get?_perm (distinct : (names fields).Nodup) (perm : fields.Perm others)
    (named : name ∈ names fields) : get? name fields = get? name others := by
  -- Every name that is there is found exactly, in either order.
  obtain ⟨⟨spelling, value⟩, member, rfl⟩ := List.mem_map.1 named
  have exactly := (getExact?_eq_some_iff distinct).2 member
  have moved := (getExact?_perm distinct perm spelling).symm.trans exactly
  exact (get?_of_getExact? exactly).trans (get?_of_getExact? moved).symm

/-- Where no field has exactly a name, the first of its fields in another case is found. -/
theorem get?_of_not_mem (missing : name ∉ names fields) :
    get? name fields = (fields.find? fun field => Text.agree field.1 name).map Prod.snd := by
  -- The exact search would return a field of that name.
  have none : lookupExact? name fields = none := by
    refine List.find?_eq_none.2 fun field member same => missing ?_
    exact List.mem_map.2 ⟨field, member, beq_iff_eq.1 same⟩
  rw [get?, lookup?, none]
  rfl

/-- Where fields are spelled as they are declared, a lookup in any case finds what is declared. -/
theorem get?_of_spelled {declared : List (String × β)} {sought : String} {type : β}
    (distinct : Unlike declared)
    (spelled : ∀ field ∈ fields, ∀ known ∈ declared, Text.agree field.1 known.1 = true →
      field.1 ∈ names declared)
    (found : lookup? sought declared = some (name, type)) :
    get? sought fields = getExact? name fields := by
  have agree : Text.agree name sought = true := agree_of_lookup? found
  have known : (name, type) ∈ declared := mem_of_lookup? found
  -- A field that agrees with what is sought has the declared spelling.
  have same : ∀ field ∈ fields, Text.agree field.1 sought = true → field.1 = name := by
    intro field member agrees
    have beside : Text.agree field.1 name = true :=
      Text.agree_trans agrees ((Text.agree_comm _ _).trans agree)
    exact eq_of_agree distinct (spelled field member _ known beside)
      (List.mem_map.2 ⟨_, known, rfl⟩) beside
  have cased : (fields.find? fun field => Text.agree field.1 sought) = lookupExact? name fields := by
    refine List.find?_congr fun field member => ?_
    rw [Bool.eq_iff_iff, beq_iff_eq]
    refine ⟨same field member, fun named => ?_⟩
    rwa [named]
  unfold get? getExact? lookup?
  cases exactly : lookupExact? sought fields with
  | none => exact congrArg _ cased
  | some field =>
    -- What is sought is then the declared spelling itself.
    have named : field.1 = sought := by simpa using List.find?_some exactly
    have member : field ∈ fields := List.mem_of_find?_eq_some exactly
    have spelledSo : field.1 = name := same field member (named ▸ Text.agree_refl field.1)
    rw [← spelledSo, named, exactly]
    rfl

/-- The fields, in order and among others whose names agree with none of theirs in any ASCII case. -/
def Extended (fields others : List (String × α)) : Prop :=
  (others.filter fun other => fields.any fun field => Text.agree field.1 other.1) = fields

/-- What a lookup finds in some fields it finds among others with new names. -/
theorem Extended.lookup? {sought : String} {field : String × α} (extended : Extended fields others)
    (found : lookup? sought fields = some field) : lookup? sought others = some field := by
  have known : field ∈ fields := mem_of_lookup? found
  have agree : Text.agree field.1 sought = true := agree_of_lookup? found
  -- A field that agrees with what is sought agrees with the one that was found.
  have searched : ∀ test : String → Bool, (∀ spelling, test spelling = true →
      Text.agree spelling sought = true) →
      (fields.find? fun field => test field.1) = others.find? fun field => test field.1 := by
    intro test agrees
    conv_lhs => rw [← extended, List.find?_filter]
    refine List.find?_congr fun other _ => ?_
    cases tested : test other.1 with
    | false => simp
    | true =>
      have beside : Text.agree field.1 other.1 = true :=
        Text.agree_trans agree ((Text.agree_comm _ _).trans (agrees _ tested))
      simpa using ⟨field.1, ⟨field.2, known⟩, beside⟩
  have exactly := searched (fun spelling => spelling == sought) fun spelling same => by
    rw [eq_of_beq same]
    exact Text.agree_refl sought
  have cased := searched (fun spelling => Text.agree spelling sought) fun _ same => same
  unfold Fields.lookup? lookupExact? at found ⊢
  rw [← exactly, ← cased]
  exact found

/-- Where one field is given another value, a search by names finds what it found or that field. -/
theorem find?_replaced (test : String → Bool) (before after : List (String × α)) (value other : α) :
    ((before ++ (name, value) :: after).find? fun field => test field.1) =
        ((before ++ (name, other) :: after).find? fun field => test field.1) ∨
      ((before ++ (name, value) :: after).find? fun field => test field.1) = some (name, value) ∧
        ((before ++ (name, other) :: after).find? fun field => test field.1) =
          some (name, other) := by
  -- The search passes by the same names, and ends at the changed field on both sides or on neither.
  simp only [List.find?_append, List.find?_cons]
  cases before.find? fun field => test field.1 with
  | some field => exact .inl rfl
  | none =>
    cases test name with
    | true => exact .inr ⟨rfl, rfl⟩
    | false => exact .inl rfl

/-- Where one field is given another value, a lookup finds what it found or that field. -/
theorem lookup?_replaced (sought : String) (before after : List (String × α)) (value other : α) :
    lookup? sought (before ++ (name, value) :: after) =
        lookup? sought (before ++ (name, other) :: after) ∨
      lookup? sought (before ++ (name, value) :: after) = some (name, value) ∧
        lookup? sought (before ++ (name, other) :: after) = some (name, other) := by
  unfold lookup? lookupExact?
  rcases find?_replaced (fun spelling => spelling == sought) before after value other with
    same | ⟨here, there⟩
  · -- Only where nothing is spelled so does the search in other cases count.
    rw [same]
    cases (before ++ (name, other) :: after).find? fun field => field.1 == sought with
    | some field => exact .inl rfl
    | none =>
      exact find?_replaced (fun spelling => Text.agree spelling sought) before after value other
  · rw [here, there]
    exact .inr ⟨rfl, rfl⟩

/-- A change of what stands under the names is a change of what they find. -/
theorem get?_map (change : α → β) (name : String) (fields : List (String × α)) :
    get? name (fields.map fun field => (field.1, change field.2)) = (get? name fields).map change := by
  -- The names stay, so both searches end at the same field.
  simp only [get?, lookup?, lookupExact?, List.find?_map, Function.comp_def]
  cases fields.find? fun field => field.1 == name with
  | none => simp [Option.map_map, Function.comp_def]
  | some field => rfl

/-- What is put under a new name comes last. -/
theorem set_of_not_mem (fresh : name ∉ names fields) :
    set name value fields = fields ++ [(name, value)] := by
  -- Every field has another name and is passed over, up to the end.
  induction fields with
  | nil => rfl
  | cons field rest ih =>
    obtain ⟨other, later⟩ := not_or.1 (fun named => fresh (List.mem_cons.2 named))
    rw [set, if_neg (Ne.symm other), ih later, List.cons_append]

end RecordFilter.Fields
