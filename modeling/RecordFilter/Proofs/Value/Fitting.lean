import RecordFilter.Proofs.Fields
import RecordFilter.Proofs.Json.RoundTrip
import RecordFilter.Proofs.Value.Loading

/-! JSON values that fit a type, where others do not, and what conversion makes of either where nothing has parts. -/

namespace RecordFilter

namespace Json

/-- A number is finite, as every number is that a JSON text can hold. -/
def Number.IsFinite : Number → Prop
  | .integer _ => True
  | .float value => value.isFinite = true

/-- A JSON value fits a type: null fits all of them, and undeclared members do not count. -/
inductive Fits : DataType → Json → Prop
  | null {type : DataType} : Fits type .null
  | boolean {value : Bool} : Fits .boolean (.boolean value)
  | int {value : Int64} : Fits .int (.number (.integer value.toInt))
  | float {value : Number} : Fits .float (.number value)
  | decimal {value : Number} (finite : value.IsFinite) : Fits .decimal (.number value)
  | string {text : String} : Fits .string (.string text)
  | text {type : DataType} {text : String} {value : Value}
      (scalar : type = .decimal ∨ type = .date ∨ type = .timestamp ∨ type = .uuid)
      (read : Value.parse type text = .ok value) : Fits type (.string text)
  | list {element : DataType} {items : List Json} (every : ∀ item ∈ items, Fits element item) :
      Fits (.list element) (.array items)
  -- Of a record, the declared members that are there have to fit.
  | record {name : String} {declared : List (String × DataType)} {members : List (String × Json)}
      (every : ∀ field ∈ declared, ∀ json, member? field.1 members = some json → Fits field.2 json) :
      Fits (.record name declared) (.object members)

/-- A step into a JSON value. -/
inductive Hop
  | item (index : Nat)
  | member (name : String)

/-- A step as text. -/
def Hop.text : Hop → String
  | .item index => "[" ++ toString index ++ "]"
  | .member name => "." ++ name

/-- The steps from the whole value inwards as text, after a dollar sign. -/
def location (hops : List Hop) : String :=
  hops.foldl (fun text hop => text ++ hop.text) "$"

/-- The type is about parts that the JSON value has. -/
def opens : DataType → Json → Bool
  | .list _, .array _ => true
  | .record _ _, .object _ => true
  | _, _ => false

/-- The first place where a JSON value does not fit a type, by the order of items and of declared fields. -/
inductive FirstMisfit : DataType → Json → List Hop → Prop
  | here {type : DataType} {json : Json} (closed : opens type json = false)
      (clash : ¬ Fits type json) : FirstMisfit type json []
  | item {element : DataType} {before after : List Json} {json : Json} {hops : List Hop}
      (fit : ∀ item ∈ before, Fits element item) (misfit : FirstMisfit element json hops) :
      FirstMisfit (.list element) (.array (before ++ json :: after)) (.item before.length :: hops)
  | member {name field : String} {type : DataType} {before after : List (String × DataType)}
      {members : List (String × Json)} {json : Json} {hops : List Hop}
      (fit : ∀ earlier ∈ before, ∀ json, member? earlier.1 members = some json →
        Fits earlier.2 json)
      (found : member? field members = some json) (misfit : FirstMisfit type json hops) :
      FirstMisfit (.record name (before ++ (field, type) :: after)) (.object members)
        (.member field :: hops)

/-- Two JSON values have the same in them wherever a type declares anything. -/
inductive Agree : DataType → Json → Json → Prop
  | same {type : DataType} {json : Json} : Agree type json json
  | list {element : DataType} {items others : List Json} (length : items.length = others.length)
      (each : ∀ (place : Nat) (item other : Json), items[place]? = some item →
        others[place]? = some other → Agree element item other) :
      Agree (.list element) (.array items) (.array others)
  | record {name : String} {declared : List (String × DataType)}
      {members others : List (String × Json)}
      (present : ∀ field ∈ declared,
        (member? field.1 members).isSome = (member? field.1 others).isSome)
      (each : ∀ field ∈ declared, ∀ json other, member? field.1 members = some json →
        member? field.1 others = some other → Agree field.2 json other) :
      Agree (.record name declared) (.object members) (.object others)

end Json

/-- The fields of every record type in a type have different names. -/
def DataType.Distinct : DataType → Prop :=
  Everywhere (fun _ => True) fun declared => (Fields.names declared).Nodup

/-- A value is made of a JSON value of the type: null of null alone, and a record of what it declares. -/
inductive Value.Loaded : DataType → Json → Value → Prop
  | null {type : DataType} : Loaded type .null .null
  | scalar {type : DataType} {json : Json} {value : Value} (scalar : type.isScalar = true)
      (present : json ≠ .null) (conforms : Conforms type value) (held : value.isNull = false) :
      Loaded type json value
  | list {element : DataType} {items : List Json} {values : List Value}
      (length : items.length = values.length)
      (each : ∀ (place : Nat) (item : Json) (value : Value), items[place]? = some item →
        values[place]? = some value → Loaded element item value) :
      Loaded (.list element) (.array items) (.list values)
  -- The fields are the declared ones that are there, in the order of the schema and each once.
  | record {name : String} {declared : List (String × DataType)} {members : List (String × Json)}
      {fields : List (String × Value)}
      (names : Fields.names fields = (Fields.names declared).filter fun field =>
        (Json.member? field members).isSome)
      (distinct : (Fields.names fields).Nodup)
      (each : ∀ field ∈ declared, ∀ json value, Json.member? field.1 members = some json →
        (field.1, value) ∈ fields → Loaded field.2 json value) :
      Loaded (.record name declared) (.object members) (.record fields)

/-- Where a JSON value is at fault. -/
def ConversionError.place : ConversionError → Json.Place
  | .mismatch place _ _ | .unreadable place _ _ _ => place

namespace Json

/-- The place one step further in. -/
def Place.into (place : Place) : Hop → Place
  | .item index => .item place index
  | .member name => .member place name

/-- The places along some steps as text. -/
theorem Place.foldl_into_text (hops : List Hop) (place : Place) :
    (hops.foldl Place.into place).text = hops.foldl (fun text hop => text ++ hop.text) place.text := by
  -- Each hop adds its own text at the end.
  induction hops generalizing place with
  | nil => rfl
  | cons hop rest ih =>
    rw [List.foldl_cons, List.foldl_cons, ih]
    cases hop <;> simp only [Place.into, Place.text, Hop.text, String.append_assoc]

/-- What has a misfit does not fit. -/
theorem FirstMisfit.not_fits {type : DataType} {json : Json} {hops : List Hop}
    (misfit : FirstMisfit type json hops) : ¬ Fits type json := by
  -- The misfit is inside the value, and a value fits only if its parts do.
  intro fits
  induction misfit with
  | here _ clash => exact clash fits
  | item _ _ ih =>
    cases fits with
    | list every => exact ih (every _ (List.mem_append_right _ List.mem_cons_self))
  | member _ found _ ih =>
    cases fits with
    | record every =>
      exact ih (every _ (List.mem_append_right _ List.mem_cons_self) _ found)

/-- Members of other names have no part in what a name finds. -/
theorem member?_filter {name : String} {keep : String → Bool} (kept : keep name = true)
    (members : List (String × Json)) :
    member? name (members.filter fun member => keep member.1) = member? name members := by
  -- A member that is left out has another name, so a search for this one passes over it.
  have same : (fun member : String × Json =>
      decide (keep member.1 = true ∧ decide (member.1 = name) = true)) =
        fun member => decide (member.1 = name) := by
    funext member
    by_cases named : member.1 = name <;> simp [named, kept]
  rw [member?, ← List.filter_reverse, List.find?_filter, same]
  rfl

/-- Members that a record type does not declare may be added, changed, removed or moved. -/
theorem Agree.undeclared {name : String} {declared : List (String × DataType)}
    {members others : List (String × Json)}
    (same : (members.filter fun member => (Fields.names declared).contains member.1) =
      others.filter fun member => (Fields.names declared).contains member.1) :
    Agree (.record name declared) (.object members) (.object others) := by
  -- A declared name is found among the declared members, and those are the same.
  have found {field : String × DataType} (member : field ∈ declared) :
      member? field.1 members = member? field.1 others := by
    have kept : (Fields.names declared).contains field.1 = true :=
      List.contains_iff_mem.2 (List.mem_map.2 ⟨field, member, rfl⟩)
    rw [← member?_filter kept members, same, member?_filter kept others]
  exact .record (fun field member => by rw [found member]) fun field member json other held again => by
    obtain rfl := Option.some.inj (held.symm.trans ((found member).trans again))
    exact .same

/-- A text does not fit a type that is neither the one of strings nor read from texts. -/
theorem not_fits_string {type : DataType} {text : String} (other : type ≠ .string)
    (unread : ¬(type = .decimal ∨ type = .date ∨ type = .timestamp ∨ type = .uuid)) :
    ¬ Fits type (.string text) := by
  -- A text fits in two ways, and each hypothesis excludes one of them.
  intro fits
  cases fits with
  | string => exact other rfl
  | text readable _ => exact unread readable

/-- The text of a finite number is read as a decimal. -/
theorem Number.IsFinite.exists_read? {value : Number} (finite : value.IsFinite) :
    ∃ decimal, Decimal.read? (String.ofList value.chars) = some decimal := by
  -- An integer's text is read as it is, a float's as the numeral its printing gives.
  cases value with
  | integer whole => exact ⟨_, Decimal.read?_integerChars whole⟩
  | float double =>
    obtain ⟨numeral, proper, chars, least, greatest⟩ := Double.exists_numeral finite
    obtain ⟨digits, read⟩ := proper.read?_chars (by
      rw [Int64.toInt_minValue, Int64.toInt_maxValue]
      omega)
    exact ⟨_, chars ▸ read⟩

end Json

namespace Value

open Json (Fits FirstMisfit)

/-- The outcome of a conversion is right: a value if the JSON value fits, or the place of its first misfit. -/
def Settled (place : Json.Place) (type : DataType) (json : Json) : Prop :=
  (∃ value, convert place type json = .ok value ∧ Fits type json ∧ Loaded type json value) ∨
  ∃ error hops, convert place type json = .error error ∧ FirstMisfit type json hops ∧
    error.place = hops.foldl Json.Place.into place

variable {place : Json.Place} {type : DataType} {json : Json}

/-- Null is null beside every type. -/
theorem convert_null (place : Json.Place) (type : DataType) :
    convert place type .null = .ok .null := by
  cases type <;> rfl

/-- A scalar that is made is a value of the type. -/
theorem Settled.scalar {value : Value} (scalar : type.isScalar = true)
    (converted : convert place type json = .ok value) (held : value.isNull = false)
    (fits : Fits type json) : Settled place type json := by
  -- The value is not null, so neither was the JSON it came from.
  have present : json ≠ .null := by
    rintro rfl
    rw [convert_null] at converted
    cases converted
    cases held
  exact .inl ⟨value, converted, fits, .scalar scalar present (convert_conforms scalar converted) held⟩

/-- What fails without being opened is a misfit itself. -/
theorem Settled.closed {error : ConversionError} (closed : Json.opens type json = false)
    (converted : convert place type json = .error error) (here : error.place = place)
    (clash : ¬ Fits type json) : Settled place type json :=
  .inr ⟨error, [], converted, .here closed clash, here⟩

/-- Null is settled beside every type. -/
theorem settled_null (place : Json.Place) (type : DataType) : Settled place type .null :=
  .inl ⟨.null, convert_null place type, .null, .null⟩

/-- A text is settled beside the types that are read from texts. -/
theorem settled_text (place : Json.Place) {text : String}
    (readable : type = .decimal ∨ type = .date ∨ type = .timestamp ∨ type = .uuid) :
    Settled place type (.string text) := by
  -- All four types read the text by `parse`, and what it says is the outcome.
  have convert_eq : convert place type (.string text) = convertText place type text := by
    rcases readable with rfl | rfl | rfl | rfl <;> rfl
  have scalar : type.isScalar = true := by
    rcases readable with rfl | rfl | rfl | rfl <;> rfl
  cases read : parse type text with
  | ok value =>
    have converted : convert place type (.string text) = .ok value :=
      convert_eq.trans (Outcome.mapError_eq_ok.2 read)
    exact .scalar scalar converted (parse_conforms read).2 (.text readable read)
  | error cause =>
    have converted : convert place type (.string text) =
        .error (.unreadable place text type cause) :=
      convert_eq.trans (Outcome.mapError_eq_error.2 ⟨cause, read, rfl⟩)
    refine .closed (by cases type <;> rfl) converted rfl fun fits => ?_
    cases fits with
    | text _ other =>
      rw [read] at other
      cases other
    | string => simp at readable

/-- A number is settled beside decimals by its text. -/
theorem settled_decimal (place : Json.Place) (number : Json.Number) :
    Settled place .decimal (.number number) := by
  by_cases finite : number.IsFinite
  · obtain ⟨decimal, found⟩ := finite.exists_read?
    have converted : convert place .decimal (.number number) = .ok (.decimal decimal) := by
      rw [convert, convertText, parse, found]
      rfl
    exact .scalar rfl converted rfl (.decimal finite)
  · -- Such a number is written as a word, which is no decimal.
    have chars : number.chars = "null".toList := by
      cases number with
      | integer whole => exact absurd trivial finite
      | float double => exact Json.chars_of_not_finite (Bool.eq_false_iff.2 finite)
    have converted : convert place .decimal (.number number) =
        .error (.unreadable place "null" .decimal (.decimal "null")) := by
      rw [convert, chars]
      rfl
    refine .closed rfl converted rfl fun fits => ?_
    cases fits with
    | decimal known => exact finite known

/-- Every JSON value is settled beside a scalar type. -/
theorem settled_scalar (scalar : type.isScalar = true) (place : Json.Place) (json : Json) :
    Settled place type json := by
  -- Where the kind of the value does not go with the type, nothing of the value is looked at.
  cases json with
  | null => exact settled_null place type
  | boolean value =>
    cases type with
    | boolean => exact .scalar rfl rfl rfl .boolean
    | list | record => cases scalar
    | _ => exact .closed rfl rfl rfl fun fits => by cases fits
  | number number =>
    cases type with
    | int =>
      cases whole : number.int64? with
      | some value =>
        obtain rfl := Json.Number.eq_of_int64? whole
        exact .scalar rfl (by rw [convert, whole]) rfl .int
      | none =>
        refine .closed rfl (by rw [convert, whole]) rfl fun fits => ?_
        cases fits with
        | @int value =>
          rw [Json.Number.int64?, Numeral.int64?_toInt] at whole
          cases whole
    | float => exact .scalar rfl rfl rfl .float
    | decimal => exact settled_decimal place number
    | list | record => cases scalar
    | _ => exact .closed rfl rfl rfl fun fits => by cases fits
  | string text =>
    cases type with
    | string => exact .scalar rfl rfl rfl .string
    | decimal | date | timestamp | uuid => exact settled_text place (by simp)
    | list | record => cases scalar
    | boolean | int | float =>
      exact .closed rfl rfl rfl (Json.not_fits_string (by simp) (by simp))
  | array items =>
    cases type with
    | list | record => cases scalar
    | _ => exact .closed rfl rfl rfl fun fits => by cases fits
  | object members =>
    cases type with
    | list | record => cases scalar
    | _ => exact .closed rfl rfl rfl fun fits => by cases fits

end Value

end RecordFilter
