import RecordFilter.Proofs.Fields
import RecordFilter.Proofs.Value.Loading

/-! Schemas that declare a name more than once, and the declaration that a converted record follows. -/

namespace RecordFilter

namespace DataType

mutual
/-- The type in which each name is declared once, as its last declaration has it. -/
def latest : DataType → DataType
  | .list element => .list element.latest
  | .record name declared => .record name (latestFields declared)
  | type => type
/-- The declarations that no later one of the same name follows. -/
def latestFields : List (String × DataType) → List (String × DataType)
  | [] => []
  | (name, type) :: rest =>
    if name ∈ Fields.names rest then latestFields rest else (name, type.latest) :: latestFields rest
end

/-- No record type, at any depth, declares one name at two types. -/
def Consistent : DataType → Prop :=
  Everywhere (fun _ => True) fun declared => ∀ field first second,
    (field, first) ∈ declared → (field, second) ∈ declared → first = second

variable {name : String} {type : DataType} {declared rest : List (String × DataType)}

/-- Types without parts declare nothing. -/
theorem latest_scalar (scalar : type.isScalar = true) : type.latest = type := by
  cases type with
  | list | record => cases scalar
  | _ => rfl

/-- A declaration that comes last was declared. -/
theorem mem_of_mem_latestFields {field : String × DataType} (kept : field ∈ latestFields declared) :
    ∃ type, (field.1, type) ∈ declared ∧ field.2 = type.latest := by
  -- A field is kept only where no later one has its name, so what is kept was declared.
  induction declared with
  | nil => cases kept
  | cons head rest ih =>
    obtain ⟨name, type⟩ := head
    have later (kept : field ∈ latestFields rest) :
        ∃ type', (field.1, type') ∈ (name, type) :: rest ∧ field.2 = type'.latest := by
      obtain ⟨type', member, same⟩ := ih kept
      exact ⟨type', List.mem_cons_of_mem _ member, same⟩
    rw [latestFields] at kept
    split at kept
    · exact later kept
    · rcases List.mem_cons.1 kept with rfl | kept
      · exact ⟨type, List.mem_cons_self, rfl⟩
      · exact later kept

/-- Each declared name has a last declaration. -/
theorem names_latestFields : name ∈ Fields.names (latestFields declared) ↔
    name ∈ Fields.names declared := by
  induction declared with
  | nil => exact Iff.rfl
  | cons head rest ih =>
    obtain ⟨other, type⟩ := head
    have names : Fields.names ((other, type) :: rest) = other :: Fields.names rest := rfl
    rw [latestFields, names, List.mem_cons]
    split
    · -- A name that is declared again stays with the later declarations.
      rename_i again
      rw [ih, or_iff_right_of_imp]
      rintro rfl
      exact again
    · show name ∈ other :: Fields.names (latestFields rest) ↔ _
      rw [List.mem_cons, ih]

end DataType

namespace Value

variable {place : Json.Place} {type : DataType} {json : Json} {value : Value} {name : String}
  {declared : List (String × DataType)} {members : List (String × Json)} {found record : Record}

/-- A name that is not declared keeps what it held. -/
theorem convertFields_getExact? (undeclared : name ∉ Fields.names declared)
    (converted : convertFields place declared members found = .ok record) :
    record.getExact? name = found.getExact? name := by
  induction declared generalizing found with
  | nil =>
    rw [convertFields] at converted
    rw [Except.ok.inj converted]
  | cons field rest ih =>
    obtain ⟨other, type⟩ := field
    obtain ⟨different, later⟩ := not_or.1 fun named => undeclared (List.mem_cons.2 named)
    rw [convertFields] at converted
    split at converted
    · exact ih later converted
    · obtain ⟨value, -, converted⟩ := Outcome.bind_eq_ok.1 converted
      -- The field that is set here has another name.
      have kept : (found.set other value).getExact? name = found.getExact? name := by
        rw [Record.getExact?, Record.set, Fields.getExact?_set, if_neg different]
        rfl
      exact (ih later converted).trans kept

/-- Under a name a record holds what its last declaration makes, or what it held before. -/
theorem convertFields_latest
    (each : ∀ field ∈ declared, ∀ place json value, convert place field.2 json = .ok value →
      Conforms field.2.latest value)
    (converted : convertFields place declared members found = .ok record)
    (last : (name, type) ∈ DataType.latestFields declared)
    (held : record.getExact? name = some value) :
    Conforms type value ∨ Json.member? name members = none ∧ found.getExact? name = some value := by
  -- What is held before the fields at hand changes with every field that is set.
  induction declared generalizing found with
  | nil => cases last
  | cons field rest ih =>
    obtain ⟨other, kind⟩ := field
    obtain ⟨first, others⟩ := List.forall_mem_cons.1 each
    rw [DataType.latestFields] at last
    rw [convertFields] at converted
    -- Only where no later declaration has its name does this one decide.
    have decides : (name, type) ∈ DataType.latestFields rest ∨
        other ∉ Fields.names rest ∧ name = other ∧ type = kind.latest := by
      split at last
      · exact .inl last
      · rename_i only
        rcases List.mem_cons.1 last with same | later
        · exact .inr ⟨only, (Prod.mk.inj same).1, (Prod.mk.inj same).2⟩
        · exact .inl later
    split at converted
    · rename_i absent
      rcases decides with later | ⟨only, rfl, rfl⟩
      · exact ih others converted later
      · exact .inr ⟨absent, (convertFields_getExact? only converted).symm.trans held⟩
    · rename_i json present
      obtain ⟨made, here, converted⟩ := Outcome.bind_eq_ok.1 converted
      have set : (found.set other made).getExact? name =
          if name = other then some made else found.getExact? name := Fields.getExact?_set ..
      rcases decides with later | ⟨only, rfl, rfl⟩
      · refine (ih others converted later).imp_right fun ⟨absent, before⟩ => ⟨absent, ?_⟩
        have different : name ≠ other := by
          rintro rfl
          exact absurd (present.symm.trans absent) nofun
        rwa [set, if_neg different] at before
      · rw [convertFields_getExact? only converted, set, if_pos rfl] at held
        obtain rfl := Option.some.inj held
        exact .inl (first _ _ _ here)

/-- The items that are made of an array come from its items. -/
theorem convertItems_conforms {element : DataType}
    {convert : Json.Place → Json → Except ConversionError Value}
    (each : ∀ place json value, convert place json = .ok value → Conforms element value)
    {items : List Json} {index : Nat} {values : List Value}
    (converted : convertItems place convert index items = .ok values) :
    ∀ value ∈ values, Conforms element value := by
  -- Each item is converted by itself, so each conforms.
  induction items generalizing index values with
  | nil =>
    rw [convertItems] at converted
    obtain rfl := Except.ok.inj converted
    exact fun _ member => absurd member List.not_mem_nil
  | cons item rest ih =>
    rw [convertItems] at converted
    obtain ⟨first, others, here, after, rfl⟩ := Outcome.cons_eq_ok.1 converted
    exact List.forall_mem_cons.2 ⟨each _ _ _ here, ih after⟩

/-- A record that is made of an object conforms to what is declared last, when its values do. -/
theorem convertFields_conforms
    (each : ∀ field ∈ declared, ∀ place json value, convert place field.2 json = .ok value →
      Conforms field.2.latest value)
    (converted : convertFields place declared members Record.empty = .ok record) :
    Conforms (DataType.record name declared).latest (.record record.fields) := by
  rw [DataType.latest]
  refine Conforms.of_declared fun field last value held => ?_
  rcases convertFields_latest each converted last held with conforms | ⟨-, before⟩
  · exact conforms
  · -- Nothing was held before the first field.
    cases before

/-- A value that is made of a JSON value conforms to what its type declares last. -/
theorem convert_conforms_latest (converted : convert place type json = .ok value) :
    Conforms type.latest value := by
  -- Null is made of null whatever the type; of anything else the type says what may be made of it.
  induction type using DataType.byParts generalizing place json value with
  | scalar type scalar =>
    rw [DataType.latest_scalar scalar]
    exact convert_conforms scalar converted
  | list element ih =>
    cases json with
    | null =>
      obtain rfl := Except.ok.inj converted
      exact .null
    | array items =>
      rw [convert] at converted
      obtain ⟨values, made, rfl⟩ := Outcome.map_eq_ok.1 converted
      rw [DataType.latest]
      exact .list (convertItems_conforms (fun _ _ _ => ih) made)
    | _ => simp [convert] at converted
  | record name declared ih =>
    cases json with
    | null =>
      obtain rfl := Except.ok.inj converted
      exact .null
    | object members =>
      rw [convert] at converted
      obtain ⟨record, made, rfl⟩ := Outcome.map_eq_ok.1 converted
      exact convertFields_conforms (fun field member _ _ _ => ih field member) made
    | _ => simp [convert] at converted

/-- Where each name is declared at one type, the last declarations say what the first ones do. -/
theorem Conforms.of_latest (consistent : type.Consistent) {value : Value}
    (conforms : Conforms type.latest value) : Conforms type value := by
  induction consistent generalizing value with
  | scalar scalar => rwa [DataType.latest_scalar scalar] at conforms
  | list _ ih =>
    rw [DataType.latest] at conforms
    cases conforms with
    | null => exact .null
    | list every => exact .list fun item member => ih (every item member)
  | @record name declared once _ ih =>
    rw [DataType.latest] at conforms
    cases conforms with
    | null => exact .null
    | record every =>
      refine .of_declared fun ⟨field, type⟩ member value held => ih _ member ?_
      -- The name finds a last declaration, which is of the same type.
      have named : field ∈ Fields.names (DataType.latestFields declared) :=
        DataType.names_latestFields.2 (List.mem_map.2 ⟨_, member, rfl⟩)
      obtain ⟨kind, found⟩ := Fields.exists_lookup? named
      obtain ⟨other, again, rfl⟩ := DataType.mem_of_mem_latestFields (Fields.mem_of_lookup? found)
      obtain rfl : other = type := once field _ _ again member
      exact every field field _ found value held

end Value

namespace Record

/--
A record made of a JSON object holds under each name what the schema declares last for it.

A lookup in the schema returns what is declared first. The two agree, at every depth, when no name is
declared at two types.
-/
theorem ofJson_conforms {schema : Schema} {json : Json} {record : Record}
    (made : ofJson schema json = .ok record) :
    Value.Conforms schema.type.latest (.record record.fields) ∧
      (schema.type.Consistent → Value.Conforms schema.type (.record record.fields)) := by
  -- The members are set in declared order, so the last definition of a name decides.
  have latest : Value.Conforms schema.type.latest (.record record.fields) := by
    cases json with
    | object members =>
      exact Value.convertFields_conforms (fun _ _ _ _ _ => Value.convert_conforms_latest) made
    | _ => cases made
  exact ⟨latest, fun consistent => latest.of_latest consistent⟩

/-- An event whose day is declared anew as a date, and marks with a name that is declared twice alike. -/
theorem ofJson_conforms_event :
    let event : Schema := ⟨"Event", [("day", .string), ("day", .date)]⟩
    let marked : Schema := ⟨"Marked", [("marks",
      .list (.record "Mark" [("n", .string), ("n", .string)]))]⟩
    (∃ record, ofJson event (.object [("day", .string "2024-01-01")]) = .ok record ∧
      Value.Conforms (.record "Event" [("day", .date)]) (.record record.fields)) ∧
    ∃ record, ofJson marked (.object [("marks", .array [.object [("n", .string "x")], .null])]) =
        .ok record ∧
      Value.Conforms marked.type (.record record.fields) := by
  intro event marked
  have once : DataType.Consistent (.record "Mark" [("n", .string), ("n", .string)]) := by
    refine .record (fun field first second here there => ?_)
      (List.forall_mem_cons.2 ⟨.scalar rfl trivial, List.forall_mem_singleton.2 (.scalar rfl trivial)⟩)
    -- Both declarations are of texts.
    simp only [List.mem_cons, Prod.mk.injEq, List.not_mem_nil, or_false, or_self] at here there
    rw [here.2, there.2]
  have consistent : marked.type.Consistent := by
    refine .record (fun field first second here there => ?_) (List.forall_mem_singleton.2 (.list once))
    rw [(Prod.mk.inj (List.mem_singleton.1 here)).2, (Prod.mk.inj (List.mem_singleton.1 there)).2]
  have day : ∃ record, ofJson event (.object [("day", .string "2024-01-01")]) = .ok record :=
    ⟨_, rfl⟩
  have marks : ∃ record, ofJson marked
      (.object [("marks", .array [.object [("n", .string "x")], .null])]) = .ok record := ⟨_, rfl⟩
  obtain ⟨record, made⟩ := day
  obtain ⟨other, filled⟩ := marks
  refine ⟨⟨record, made, ?_⟩, ⟨other, filled, (ofJson_conforms filled).2 consistent⟩⟩
  have last : event.type.latest = .record "Event" [("day", .date)] := rfl
  rw [← last]
  exact (ofJson_conforms made).1

/-- A field that is declared as a text and again as a date is looked up as a text and holds a date. -/
theorem ofJson_declared_twice :
    let schema : Schema := ⟨"Event", [("a", .string), ("a", .date)]⟩
    ∃ record value, ofJson schema (.object [("a", .string "2024-01-01")]) = .ok record ∧
      schema.field? "a" = some ("a", .string) ∧ record.getExact? "a" = some value ∧
      ¬ Value.Conforms .string value :=
  ⟨_, _, rfl, rfl, rfl, nofun⟩

end Record

end RecordFilter
