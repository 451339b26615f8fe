import RecordFilter.Proofs.Value.Fitting

/-! Records made of JSON values: which of them fit a schema, what is made of those, and what is at fault in others. -/

namespace RecordFilter

namespace Value

open Json (Fits FirstMisfit)

variable {place : Json.Place} {type : DataType} {json : Json}

/-- The items of an array are made into values one by one, or the first misfit among them is at fault. -/
theorem settled_items {element : DataType} (each : ∀ place json, Settled place element json)
    (place : Json.Place) (items : List Json) (index : Nat) :
    (∃ values, convertItems place (fun place item => convert place element item) index items =
        .ok values ∧ (∀ item ∈ items, Fits element item) ∧ items.length = values.length ∧
        ∀ (count : Nat) (item : Json) (value : Value), items[count]? = some item →
          values[count]? = some value → Loaded element item value) ∨
    ∃ error before item after hops,
      convertItems place (fun place item => convert place element item) index items = .error error ∧
        items = before ++ item :: after ∧ (∀ item ∈ before, Fits element item) ∧
        FirstMisfit element item hops ∧
        error.place = hops.foldl Json.Place.into (.item place (index + before.length)) := by
  -- The items are converted in order; the first that does not fit ends the run, at its index from
  -- the start.
  induction items generalizing index with
  | nil => exact .inl ⟨[], rfl, nofun, rfl, nofun⟩
  | cons item rest ih =>
    -- The head settles first, for it is converted first.
    rcases each (.item place index) item with
      ⟨value, here, fits, loaded⟩ | ⟨error, hops, here, misfit, blamed⟩
    · rcases ih (index + 1) with
        ⟨values, after, fit, length, load⟩ |
        ⟨error, before, other, later, hops, after, rfl, fit, misfit, blamed⟩
      · refine .inl ⟨value :: values, ?_, List.forall_mem_cons.2 ⟨fits, fit⟩,
          congrArg Nat.succ length, fun count item' value' => ?_⟩
        · rw [convertItems, here, after]
          rfl
        · cases count with
          | zero =>
            rintro ⟨⟩ ⟨⟩
            exact loaded
          | succ count => exact load count item' value'
      · refine .inr ⟨error, item :: before, other, later, hops, ?_, rfl,
          List.forall_mem_cons.2 ⟨fits, fit⟩, misfit, ?_⟩
        · rw [convertItems, here, after]
          rfl
        · rw [blamed, List.length_cons, Nat.add_right_comm, Nat.add_assoc]
    · refine .inr ⟨error, [], item, rest, hops, ?_, rfl, nofun, misfit, blamed⟩
      rw [convertItems, here]
      rfl

/-- The outcome for declared fields is right: the fields that are there, or the first misfit among them. -/
def FieldsSettled (place : Json.Place) (declared : List (String × DataType))
    (members : List (String × Json)) (found : Record) : Prop :=
  (∃ fields, convertFields place declared members found = .ok ⟨found.fields ++ fields⟩ ∧
    (∀ field ∈ declared, ∀ json, Json.member? field.1 members = some json → Fits field.2 json) ∧
    (Fields.names fields = (Fields.names declared).filter fun field =>
      (Json.member? field members).isSome) ∧
    ∀ field ∈ declared, ∀ json value, Json.member? field.1 members = some json →
      (field.1, value) ∈ fields → Loaded field.2 json value) ∨
  ∃ error before field type after json hops,
    convertFields place declared members found = .error error ∧
      declared = before ++ (field, type) :: after ∧
      (∀ earlier ∈ before, ∀ json, Json.member? earlier.1 members = some json →
        Fits earlier.2 json) ∧
      Json.member? field members = some json ∧ FirstMisfit type json hops ∧
      error.place = hops.foldl Json.Place.into (.member place field)

variable {name : String} {rest : List (String × DataType)} {members : List (String × Json)}
  {found : Record} {value : Value}

/-- A field that is not there has no part in the outcome. -/
theorem FieldsSettled.absent (absent : Json.member? name members = none)
    (settled : FieldsSettled place rest members found) :
    FieldsSettled place ((name, type) :: rest) members found := by
  -- A field with no member is skipped, whatever the rest comes to.
  have skipped : convertFields place ((name, type) :: rest) members found =
      convertFields place rest members found := by
    rw [convertFields, absent]
  have nothing {json : Json} (held : Json.member? name members = some json) : False := by
    rw [absent] at held
    cases held
  rcases settled with ⟨fields, made, fit, kept, load⟩ |
    ⟨error, before, field, kind, after, json, hops, failed, rfl, fit, present, misfit, blamed⟩
  · refine .inl ⟨fields, skipped.trans made,
      List.forall_mem_cons.2 ⟨fun _ held => (nothing held).elim, fit⟩, ?_,
      List.forall_mem_cons.2 ⟨fun _ _ held => (nothing held).elim, load⟩⟩
    show _ = (name :: Fields.names rest).filter _
    rw [kept, List.filter_cons, absent, Option.isSome_none, if_neg (by decide)]
  · exact .inr ⟨error, (name, type) :: before, field, kind, after, json, hops, skipped.trans failed,
      rfl, List.forall_mem_cons.2 ⟨fun _ held => (nothing held).elim, fit⟩, present, misfit, blamed⟩

/-- The value of a field that is there comes before those of the others. -/
theorem FieldsSettled.present (held : Json.member? name members = some json)
    (converted : convert (.member place name) type json = .ok value) (fits : Fits type json)
    (loaded : Loaded type json value) (first : name ∉ Fields.names rest)
    (fresh : name ∉ Fields.names found.fields)
    (settled : FieldsSettled place rest members (found.set name value)) :
    FieldsSettled place ((name, type) :: rest) members found := by
  have set : found.set name value = ⟨found.fields ++ [(name, value)]⟩ :=
    congrArg Record.mk (Fields.set_of_not_mem fresh)
  have stepped : convertFields place ((name, type) :: rest) members found =
      convertFields place rest members (found.set name value) := by
    rw [convertFields, held]
    dsimp only
    rw [converted]
    rfl
  have only : ∀ other, Json.member? name members = some other → Fits type other := by
    intro other again
    obtain rfl := Option.some.inj (held.symm.trans again)
    exact fits
  rcases settled with ⟨fields, made, fit, kept, load⟩ |
    ⟨error, before, field, kind, after, other, hops, failed, rfl, fit, present, misfit, blamed⟩
  · refine .inl ⟨(name, value) :: fields, ?_, List.forall_mem_cons.2 ⟨only, fit⟩, ?_,
      List.forall_mem_cons.2 ⟨fun other result again inside => ?_,
        fun field member other result again inside => ?_⟩⟩
    · rw [stepped, made, set, List.append_assoc, List.singleton_append]
    · show name :: Fields.names fields = (name :: Fields.names rest).filter _
      rw [List.filter_cons, held, Option.isSome_some, if_pos rfl, kept]
    · -- None of the other fields has this name.
      obtain rfl := Option.some.inj (held.symm.trans again)
      rcases List.mem_cons.1 inside with same | after
      · rw [(Prod.mk.inj same).2]
        exact loaded
      · have named : name ∈ Fields.names fields := List.mem_map.2 ⟨_, after, rfl⟩
        rw [kept] at named
        exact absurd (List.mem_filter.1 named).1 first
    · rcases List.mem_cons.1 inside with same | after
      · exact absurd (List.mem_map.2 ⟨field, member, (Prod.mk.inj same).1⟩) first
      · exact load field member other result again after
  · exact .inr ⟨error, (name, type) :: before, field, kind, after, other, hops,
      stepped.trans failed, rfl, List.forall_mem_cons.2 ⟨only, fit⟩, present, misfit, blamed⟩

/-- A misfit in the first field is the first one. -/
theorem FieldsSettled.misfit {error : ConversionError} {hops : List Json.Hop}
    (held : Json.member? name members = some json)
    (converted : convert (.member place name) type json = .error error)
    (misfit : FirstMisfit type json hops)
    (blamed : error.place = hops.foldl Json.Place.into (.member place name)) :
    FieldsSettled place ((name, type) :: rest) members found := by
  -- The first declared field is the first misfit, and nothing stands before it.
  refine .inr ⟨error, [], name, type, rest, json, hops, ?_, rfl, nofun, held, misfit, blamed⟩
  rw [convertFields, held]
  dsimp only
  rw [converted]
  rfl

/-- Declared fields of different names are settled one after another. -/
theorem settled_fields {declared : List (String × DataType)}
    (each : ∀ field ∈ declared, ∀ place json, Settled place field.2 json)
    (names : (Fields.names declared).Nodup) (place : Json.Place) (members : List (String × Json))
    (found : Record)
    (fresh : ∀ name ∈ Fields.names declared, name ∉ Fields.names found.fields) :
    FieldsSettled place declared members found := by
  -- The declared order decides; the names set so far are kept apart from those to come.
  induction declared generalizing found with
  | nil => exact .inl ⟨[], by simp [convertFields], nofun, rfl, nofun⟩
  | cons field rest ih =>
    obtain ⟨name, type⟩ := field
    obtain ⟨settledFirst, settledOthers⟩ := List.forall_mem_cons.1 each
    obtain ⟨first, others⟩ := List.nodup_cons.1 names
    obtain ⟨new, freshOthers⟩ := List.forall_mem_cons.1 fresh
    cases held : Json.member? name members with
    | none => exact .absent held (ih settledOthers others found freshOthers)
    | some json =>
      rcases settledFirst (.member place name) json with
        ⟨value, converted, fits, loaded⟩ | ⟨error, hops, converted, misfit, blamed⟩
      · -- The new name joins the names found, and no later declared name is that one.
        refine .present held converted fits loaded first new
          (ih settledOthers others _ fun other member => ?_)
        rw [Record.set, Fields.set_of_not_mem new, Fields.names, List.map_append, List.mem_append,
          not_or]
        refine ⟨freshOthers other member, fun same => ?_⟩
        obtain rfl : other = name := by simpa using same
        exact first member
      · exact .misfit held converted misfit blamed

/-- Beside a type whose records have fields of different names every JSON value is settled. -/
theorem settled (distinct : type.Distinct) (place : Json.Place) (json : Json) :
    Settled place type json := by
  -- A type settles once its parts do, by the recursion over types with distinct names.
  induction distinct generalizing place json with
  | scalar scalar => exact settled_scalar scalar place json
  | @list element _ ih =>
    cases json with
    | null => exact settled_null place _
    | array items =>
      rcases settled_items ih place items 0 with
        ⟨values, made, fit, length, load⟩ |
        ⟨error, before, item, after, hops, failed, rfl, fit, misfit, blamed⟩
      · exact .inl ⟨.list values, by rw [convert, made]; rfl, .list fit, .list length load⟩
      · rw [Nat.zero_add] at blamed
        exact .inr ⟨error, .item before.length :: hops, by rw [convert, failed]; rfl,
          .item fit misfit, blamed⟩
    -- A text fits only scalars that are read from text.
    | string text => exact .closed rfl rfl rfl (Json.not_fits_string (by simp) (by simp))
    | _ => exact .closed rfl rfl rfl fun fits => by cases fits
  | @record name declared names _ ih =>
    cases json with
    | null => exact settled_null place _
    | object members =>
      rcases settled_fields ih names place members Record.empty (fun _ _ => List.not_mem_nil) with
        ⟨fields, made, fit, kept, load⟩ |
        ⟨error, before, field, type, after, json, hops, failed, rfl, fit, held, misfit, blamed⟩
      · refine .inl ⟨.record fields, by rw [convert, made]; rfl, .record fit, .record kept ?_ load⟩
        rw [kept]
        exact names.filter _
      · exact .inr ⟨error, .member field :: hops, by rw [convert, failed]; rfl,
          .member fit held misfit, blamed⟩
    | string text => exact .closed rfl rfl rfl (Json.not_fits_string (by simp) (by simp))
    | _ => exact .closed rfl rfl rfl fun fits => by cases fits

/-- Arrays have the same outcome when their items have, place by place. -/
theorem convertItems_congr {convert : Json.Place → Json → Except ConversionError Value}
    {items others : List Json} (length : items.length = others.length)
    (each : ∀ (count : Nat) (item other : Json), items[count]? = some item →
      others[count]? = some other → ∀ place, convert place item = convert place other)
    (place : Json.Place) (index : Nat) :
    convertItems place convert index items = convertItems place convert index others := by
  -- Items are converted at their own index, so the two runs are compared place by place.
  induction items generalizing others index with
  | nil =>
    obtain rfl := List.length_eq_zero_iff.1 length.symm
    rfl
  | cons item rest ih =>
    cases others with
    | nil => cases length
    | cons other others =>
      have same := ih (Nat.succ.inj length) (fun count => each (count + 1)) (index + 1)
      rw [convertItems, convertItems, each 0 item other rfl rfl, same]

/-- Objects have the same outcome when their declared members have. -/
theorem convertFields_congr {declared : List (String × DataType)}
    {members others : List (String × Json)}
    (present : ∀ field ∈ declared,
      (Json.member? field.1 members).isSome = (Json.member? field.1 others).isSome)
    (each : ∀ field ∈ declared, ∀ json other, Json.member? field.1 members = some json →
      Json.member? field.1 others = some other →
        ∀ place, convert place field.2 json = convert place field.2 other)
    (place : Json.Place) (found : Record) :
    convertFields place declared members found = convertFields place declared others found := by
  -- Only declared names are looked up, so the other members are never seen.
  induction declared generalizing found with
  | nil => rfl
  | cons field rest ih =>
    rw [List.forall_mem_cons] at present each
    have after := ih present.2 each.2
    obtain ⟨name, type⟩ := field
    rw [convertFields, convertFields]
    cases held : Json.member? name members with
    | none =>
      have absent : Json.member? name others = none := by
        simpa [held] using present.1
      rw [absent]
      exact after found
    | some json =>
      have there := present.1
      rw [held] at there
      obtain ⟨other, same⟩ := Option.isSome_iff_exists.1 there.symm
      rw [same]
      dsimp only
      rw [each.1 json other held same]
      exact congrArg (Bind.bind _) (funext fun value => after _)

/-- JSON values that agree in what a type declares have the same outcome. -/
theorem convert_agree {type : DataType} {json other : Json} (agree : Json.Agree type json other)
    (place : Json.Place) : convert place type json = convert place type other := by
  -- Agreement has one rule for each kind of type that has parts.
  induction agree generalizing place with
  | same => rfl
  | list length _ ih =>
    rw [convert, convert, convertItems_congr length ih]
  | record present _ ih =>
    rw [convert, convert, convertFields_congr present ih]

end Value

/-- A message names the place that is at fault, whatever reasons it ends with. -/
theorem ConversionError.exists_message (error : ConversionError) (reasons : Reasons) :
    ∃ before after,
      error.message reasons = before ++ "at '" ++ error.place.text ++ "'" ++ after := by
  -- Both kinds of messages have the place between quotes, after a space that belongs to the front.
  have opening : " at '" = " " ++ "at '" := by decide
  cases error with
  | mismatch place expected found =>
    have closing : "', found " = "'" ++ ", found " := by decide
    refine ⟨"Expected " ++ expected.text ++ " ", ", found " ++ found, ?_⟩
    show "Expected " ++ expected.text ++ " at '" ++ place.text ++ "', found " ++ found = _
    rw [opening, closing]
    simp only [ConversionError.place, String.append_assoc, -String.reduceAppend]
  | unreadable place text expected cause =>
    have closing : "': " = "'" ++ ": " := by decide
    refine ⟨"Failed to parse '" ++ text ++ "' as " ++ expected.text ++ " ",
      ": " ++ cause.message reasons, ?_⟩
    show "Failed to parse '" ++ text ++ "' as " ++ expected.text ++ " at '" ++ place.text ++ "': " ++
      cause.message reasons = _
    rw [opening, closing]
    simp only [ConversionError.place, String.append_assoc, -String.reduceAppend]

namespace Record

variable {schema : Schema}

/-- The record of an object is the value of the record type. -/
theorem convert_object (schema : Schema) (members : List (String × Json)) :
    Value.convert .root schema.type (.object members) =
      (ofJson schema (.object members)).map fun record => Value.record record.fields :=
  rfl

/-- What is no object is at fault as a whole. -/
theorem ofJson_of_not_object {json : Json} (other : ∀ members, json ≠ .object members) :
    ofJson schema json = .error (.mismatch .root schema.type json.kind) ∧
      (json.FirstMisfit schema.type [] ∨ json = .null) := by
  -- Null fits every type, yet a record is not made from it.
  cases json with
  | object members => exact absurd rfl (other members)
  | null => exact ⟨rfl, .inr rfl⟩
  | _ => exact ⟨rfl, .inl (.here rfl nofun)⟩

/-- An object that fits is made into a record, and every other value has a first place that is at fault. -/
theorem ofJson_settled (distinct : schema.type.Distinct) (json : Json) :
    (∃ record, ofJson schema json = .ok record ∧ (∃ members, json = .object members) ∧
      json.Fits schema.type ∧ Value.Loaded schema.type json (.record record.fields)) ∨
    ∃ error hops, ofJson schema json = .error error ∧
      (json.FirstMisfit schema.type hops ∨ json = .null ∧ hops = []) ∧
      error.place.text = Json.location hops := by
  by_cases object : ∃ members, json = .object members
  · obtain ⟨members, rfl⟩ := object
    rcases Value.settled distinct .root (.object members) with
      ⟨value, converted, fits, loaded⟩ | ⟨error, hops, failed, misfit, blamed⟩
    · rw [convert_object] at converted
      obtain ⟨record, made, rfl⟩ := Outcome.map_eq_ok.1 converted
      exact .inl ⟨record, made, ⟨members, rfl⟩, fits, loaded⟩
    · rw [convert_object, Outcome.map_eq_error] at failed
      refine .inr ⟨error, hops, failed, .inl misfit, ?_⟩
      rw [blamed, Json.Place.foldl_into_text]
      rfl
  · -- Null fits a record type, but a record is not made of it.
    obtain ⟨failed, misfit⟩ := @ofJson_of_not_object schema json fun members same =>
      object ⟨members, same⟩
    exact .inr ⟨_, [], failed, misfit.imp_right fun null => ⟨null, rfl⟩, rfl⟩

/-- Values that agree in what the schema declares have the same outcome. -/
theorem ofJson_agree {json other : Json} (agree : json.Agree schema.type other) :
    ofJson schema other = ofJson schema json := by
  -- The record's fields are converted at the root as those of any record.
  have parts : json.Agree (.record schema.name schema.fields) other := agree
  cases parts with
  | same => rfl
  | record present each =>
    exact (Value.convertFields_congr present
      (fun field member json other held same => Value.convert_agree (each field member json other
        held same)) .root Record.empty).symm

/--
A JSON value becomes a record of a schema exactly if it is an object that fits.

The record holds what the schema declares and the object has, whatever else the object has. Any other
value is at fault in the first place where it does not fit, which the message names, whatever other
readers give as their reasons.
-/
theorem ofJson_spec (distinct : schema.type.Distinct) (json : Json) :
    ((∃ record, ofJson schema json = .ok record) ↔
      (∃ members, json = .object members) ∧ json.Fits schema.type) ∧
    (∀ record, ofJson schema json = .ok record →
      Value.Loaded schema.type json (.record record.fields)) ∧
    (∀ other, json.Agree schema.type other → ofJson schema other = ofJson schema json) ∧
    ∀ error, ofJson schema json = .error error →
      ∃ hops, (json.FirstMisfit schema.type hops ∨ json = .null ∧ hops = []) ∧
        error.place.text = Json.location hops ∧
        ∀ reasons, ∃ before after,
          error.message reasons = before ++ "at '" ++ Json.location hops ++ "'" ++ after := by
  -- The conversion settles in one of two ways; each conjunct is read off both of them.
  rcases ofJson_settled distinct json with
    ⟨record, made, object, fits, loaded⟩ | ⟨error, hops, failed, misfit, blamed⟩
  · refine ⟨⟨fun _ => ⟨object, fits⟩, fun _ => ⟨record, made⟩⟩, fun other again => ?_,
      fun other => ofJson_agree, fun error failed => ?_⟩
    · obtain rfl := Except.ok.inj (made.symm.trans again)
      exact loaded
    · rw [made] at failed
      cases failed
  · have unmade (record : Record) (made : ofJson schema json = .ok record) : False := by
      rw [failed] at made
      cases made
    refine ⟨⟨fun ⟨record, made⟩ => (unmade record made).elim, fun ⟨⟨members, object⟩, fits⟩ => ?_⟩,
      fun record made => (unmade record made).elim, fun other => ofJson_agree,
      fun other again => ?_⟩
    · rcases misfit with misfit | ⟨null, -⟩
      · exact absurd fits misfit.not_fits
      · cases object.symm.trans null
    · obtain rfl := Except.error.inj (failed.symm.trans again)
      exact ⟨hops, misfit, blamed, blamed ▸ error.exists_message⟩

/-- An order, whose colour does not count, has a null line, one without a quantity and one with a text for it. -/
theorem ofJson_spec_order :
    let schema : Schema := ⟨"Order", [("id", .int),
      ("lines", .list (.record "Line" [("sku", .string), ("qty", .int)]))]⟩
    let json : Json := .object [("color", .string "red"), ("lines", .array [.null,
      .object [("sku", .string "a")], .object [("qty", .string "two")], .boolean true])]
    schema.type.Distinct ∧
      (∃ hops, json.FirstMisfit schema.type hops ∧ Json.location hops = "$.lines[2].qty") ∧
      ofJson schema (.object [("lines", .array [.null, .object [("sku", .string "a")],
        .object [("qty", .string "two")], .boolean true])]) = ofJson schema json := by
  -- The misfit is the third line's quantity; the undeclared color is dropped.
  intro schema json
  have line : (DataType.record "Line" [("sku", .string), ("qty", .int)]).Distinct :=
    .record (by decide)
      (List.forall_mem_cons.2 ⟨.scalar rfl trivial,
        List.forall_mem_singleton.2 (.scalar rfl trivial)⟩)
  have distinct : schema.type.Distinct := by
    refine .record (by decide) (List.forall_mem_cons.2 ⟨.scalar rfl trivial, ?_⟩)
    exact List.forall_mem_singleton.2 (.list line)
  obtain ⟨-, -, agreeing, blamed⟩ := ofJson_spec distinct json
  obtain ⟨hops, misfit | ⟨null, -⟩, here, -⟩ := blamed _ rfl
  · exact ⟨distinct, ⟨hops, misfit, here.symm.trans (by decide +kernel)⟩,
      agreeing _ (.undeclared rfl)⟩
  · exact absurd null nofun

end Record

end RecordFilter
