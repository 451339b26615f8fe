import RecordFilter.Text.Case

/-! Lists of named things, in which a name is looked up exactly first and then in any case. -/

namespace RecordFilter.Fields

/-- The first entry of exactly a name. -/
def lookupExact? (name : String) (fields : List (String × α)) : Option (String × α) :=
  fields.find? fun field => field.1 == name

/-- The first entry of exactly a name, or else the first whose name agrees in any ASCII case. -/
def lookup? (name : String) (fields : List (String × α)) : Option (String × α) :=
  lookupExact? name fields <|> fields.find? fun field => Text.agree field.1 name

/-- What stands under exactly a name. -/
def getExact? (name : String) (fields : List (String × α)) : Option α :=
  (lookupExact? name fields).map Prod.snd

/-- What stands under a name, in any ASCII case where the exact one is missing. -/
def get? (name : String) (fields : List (String × α)) : Option α :=
  (lookup? name fields).map Prod.snd

/-- Puts something under exactly a name: in the place of what stood there, or at the end. -/
def set (name : String) (value : α) : List (String × α) → List (String × α)
  | [] => [(name, value)]
  | field :: rest => if field.1 = name then (name, value) :: rest else field :: set name value rest

/-- The names in order. -/
def names (fields : List (String × α)) : List String :=
  fields.map Prod.fst

/-- What a lookup returns is one of the entries. -/
theorem mem_of_lookup? {name : String} {fields : List (String × α)} {field : String × α}
    (found : lookup? name fields = some field) : field ∈ fields := by
  -- It was found either by the exact name or, failing that, in another case.
  unfold lookup? lookupExact? at found
  cases exactly : fields.find? fun field => field.1 == name with
  | some entry =>
    rw [exactly] at found
    obtain rfl : entry = field := Option.some.inj found
    exact List.mem_of_find?_eq_some exactly
  | none =>
    rw [exactly] at found
    exact List.mem_of_find?_eq_some found

/-- After something is put under a name, that name holds it and every other one what it held. -/
theorem getExact?_set (name other : String) (value : α) (fields : List (String × α)) :
    getExact? other (set name value fields) =
      if other = name then some value else getExact? other fields := by
  -- The first entry is either the one replaced or passed over.
  induction fields with
  | nil =>
    by_cases same : other = name
    · simp [set, getExact?, lookupExact?, same]
    · simp [set, getExact?, lookupExact?, same, Ne.symm same]
  | cons field rest ih =>
    simp only [getExact?, lookupExact?] at ih
    by_cases replaced : field.1 = name
    · by_cases same : other = name
      · simp [set, getExact?, lookupExact?, replaced, same]
      · simp [set, getExact?, lookupExact?, replaced, same, Ne.symm same]
    · by_cases here : field.1 = other
      · have different : other ≠ name := fun equal => replaced (here.trans equal)
        simp [set, getExact?, lookupExact?, here, different]
      · simp [set, getExact?, lookupExact?, replaced, here, ih]

/-- Only a new name changes the names, and it comes last. -/
theorem names_set (name : String) (value : α) (fields : List (String × α)) :
    names (set name value fields) =
      if name ∈ names fields then names fields else names fields ++ [name] := by
  -- A replaced entry keeps its name, and an entry passed over keeps its place.
  induction fields with
  | nil => simp [set, names]
  | cons field rest ih =>
    simp only [names] at ih
    by_cases replaced : field.1 = name
    · simp [set, names, replaced]
    · have different : name ≠ field.1 := fun equal => replaced equal.symm
      by_cases known : name ∈ rest.map Prod.fst
      · simp only [set, names, if_neg replaced, List.map_cons, ih, List.mem_cons, known, or_true,
          if_true]
      · simp only [set, names, if_neg replaced, List.map_cons, ih, List.mem_cons, known, different,
          or_self, if_false, List.cons_append]

end RecordFilter.Fields
