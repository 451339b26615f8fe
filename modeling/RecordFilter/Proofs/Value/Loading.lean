import RecordFilter.Filter.Json
import RecordFilter.Proofs.Number.Text
import RecordFilter.Proofs.Schema.Parts
import RecordFilter.Proofs.Value.Conformity
import RecordFilter.Proofs.Value.Quantity
import RecordFilter.Value.Conversion

/-! One JSON value read twice, for a field and for a condition: as a value of a type and as a literal. -/

namespace RecordFilter

/-- A double other than NaN stands nowhere but beside itself. -/
theorem Double.compare?_self {number : Double} (known : number ≠ .nan) :
    number.compare? number = some .eq := by
  -- NaN alone has no place in the order.
  cases number with
  | nan => exact absurd rfl known
  | infinite negative => cases negative <;> rfl
  | finite negative rank => simp [compare?, position?]

/-- Rounding never makes NaN. -/
theorem Double.ofRank_ne_nan (negative : Bool) (rank : Nat) : ofRank negative rank ≠ .nan := by
  unfold ofRank
  split <;> simp

/-- No number of a JSON text is NaN, since whole ones are rounded to something. -/
theorem Json.Number.double_ne_nan {number : Json.Number} (known : number ≠ .float .nan) :
    number.double ≠ .nan := by
  -- An integer rounds to a rank, finite or infinite.
  cases number with
  | float value => exact fun same => known (congrArg Number.float same)
  | integer value =>
    rw [Number.double, Double.ofInt, Double.ofFraction]
    exact Double.ofRank_ne_nan _ _

/-- An integer of 64 bits is what was written. -/
theorem Json.Number.eq_of_int64? {number : Json.Number} {whole : Int64}
    (fits : number.int64? = some whole) : number = .integer whole.toInt := by
  -- A number read as a float is never taken for an integer.
  cases number with
  | float value => cases fits
  | integer value =>
    simp only [int64?, Numeral.int64?, Option.ite_none_right_eq_some, Option.some.injEq] at fits
    obtain ⟨⟨least, greatest⟩, rfl⟩ := fits
    rw [Int64.toInt_minValue] at least
    rw [Int64.toInt_maxValue] at greatest
    rw [Int64.toInt_ofInt_of_le least (by omega)]

/-- Nothing but null is read as the literal null. -/
theorem Literal.eq_null_of_ofJson? {json : Json} (read : ofJson? json = some .null) :
    json = .null := by
  -- Every other JSON value gives a literal of its own kind.
  cases json with
  | null => rfl
  | number number => cases fits : number.int64? <;> simp [ofJson?, fits] at read
  | _ => simp [ofJson?] at read

namespace Value

/-- A scalar other than NaN equals itself. -/
theorem equal_self {type : DataType} {value : Value} (scalar : type.isScalar = true)
    (conforms : Conforms type value) (known : value ≠ .float .nan) : value.equal value = true := by
  -- Every kind is ordered by numbers or texts, in which each one comes neither before nor after itself.
  have settled : value.isNull = false → value.compare? value = some .eq := by
    intro present
    cases conforms with
    | null => cases present
    | float => exact Double.compare?_self fun same => known (congrArg Value.float same)
    | decimal => exact congrArg some ((Decimal.compare_eq _ _).trans (cmp_self_eq_eq _))
    | int | boolean | string => simp [compare?]
    | date => simp [compare?, Date.compare]
    | timestamp => simp [compare?, Timestamp.compare, Date.compare]
    | uuid => simp [compare?, Uuid.compare]
    | list | record => cases scalar
  cases conforms with
  | null => rfl
  | list | record => cases scalar
  | _ => simp [equal, settled rfl]

variable {place : Json.Place} {type : DataType} {json : Json} {number : Json.Number}
  {literal : Literal} {value bound : Value}

/-- A text is read alike for a field and for a condition. -/
theorem readAs_eq_convertText {text : String} (converted : convertText place type text = .ok value)
    (coerced : Literal.readAs type text = .ok bound) : bound = value := by
  -- Both read the text by `parse` and differ in the errors only.
  have first := Outcome.mapError_eq_ok.1 converted
  have second := Outcome.mapError_eq_ok.1 coerced
  exact Except.ok.inj (second.symm.trans first)

/-- A decimal that is read from text is one that the reader finds. -/
theorem convertText_decimal {text : String}
    (converted : convertText place .decimal text = .ok value) :
    ∃ decimal, Decimal.read? text = some decimal ∧ value = .decimal decimal := by
  -- Had the reader found none, the conversion would have failed.
  have read := Outcome.mapError_eq_ok.1 converted
  simp only [parse] at read
  cases found : Decimal.read? text with
  | none =>
    rw [found] at read
    cases read
  | some decimal =>
    rw [found] at read
    exact ⟨decimal, rfl, (Except.ok.inj read).symm⟩

/-- A scalar that is made of a JSON value conforms to its type. -/
theorem convert_conforms (scalar : type.isScalar = true)
    (converted : convert place type json = .ok value) : Conforms type value := by
  -- Each kind of JSON meets each scalar type once; most pairs are refused.
  cases json with
  | null =>
    simp only [convert, Except.ok.injEq] at converted
    rw [← converted]
    exact .null
  | boolean flag =>
    cases type <;> simp only [convert, reduceCtorEq, Except.ok.injEq] at converted
    rw [← converted]
    exact .boolean
  | number number =>
    cases type with
    | int =>
      rw [convert] at converted
      split at converted <;> cases converted
      exact .int
    | float =>
      rw [convert] at converted
      cases converted
      exact .float
    | decimal =>
      rw [convert] at converted
      obtain ⟨decimal, -, rfl⟩ := convertText_decimal converted
      exact .decimal
    | _ => simp [convert] at converted
  | string text =>
    cases type with
    | string =>
      rw [convert] at converted
      cases converted
      exact .string
    | decimal | date | timestamp | uuid =>
      rw [convert] at converted
      exact (parse_conforms (Outcome.mapError_eq_ok.1 converted)).1
    | _ => simp [convert] at converted
  | array items =>
    cases type <;> simp only [convert, reduceCtorEq] at converted
    cases scalar
  | object members =>
    cases type <;> simp only [convert, reduceCtorEq] at converted
    cases scalar

/-- No scalar that is made of a JSON text is NaN. -/
theorem convert_ne_nan (scalar : type.isScalar = true) (known : json ≠ .number (.float .nan))
    (converted : convert place type json = .ok value) : value ≠ .float .nan := by
  rintro rfl
  -- A double is only made of a JSON number, beside doubles.
  cases convert_conforms scalar converted with
  | float =>
    cases json with
    | number number =>
      rw [convert] at converted
      have same : number.double = .nan := by
        injection converted with same
        injection same
      exact Json.Number.double_ne_nan (fun nan => known (congrArg Json.number nan)) same
    | _ => simp [convert] at converted

/-- A 64-bit integer is the same value for a field and for a condition. -/
theorem coerce_eq_convert_int {whole : Int64} (fits : number.int64? = some whole)
    (converted : convert place type (.number number) = .ok value)
    (coerced : (Literal.int whole).coerce type = .ok bound) : bound = value := by
  obtain rfl := Json.Number.eq_of_int64? fits
  cases type with
  | int =>
    rw [convert, fits] at converted
    exact (Except.ok.inj coerced).symm.trans (Except.ok.inj converted)
  | float =>
    rw [convert, Json.Number.double] at converted
    exact (Except.ok.inj coerced).symm.trans (Except.ok.inj converted)
  | decimal =>
    -- The digits of an integer are read back as that integer.
    rw [convert, Json.Number.chars] at converted
    obtain ⟨decimal, read, rfl⟩ := convertText_decimal converted
    rw [Decimal.read?_integerChars] at read
    rw [← Option.some.inj read]
    exact (Except.ok.inj coerced).symm
  | _ => cases coerced

/-- A JSON value is the same for a field and for a condition, unless decimals stand beside what is no 64-bit integer. -/
theorem coerce_eq_convert (scalar : type.isScalar = true)
    (kept : type = .decimal → ∀ number, json = .number number → number.int64? ≠ none)
    (converted : convert place type json = .ok value)
    (written : Literal.ofJson? json = some literal)
    (coerced : literal.coerce type = .ok bound) : bound = value := by
  -- The record's value and the literal are made from the same JSON, each by its own rules.
  cases json with
  | null =>
    cases written
    cases coerced
    simp only [convert] at converted
    exact Except.ok.inj converted
  | boolean flag =>
    cases written
    cases type <;> simp only [convert, reduceCtorEq, Except.ok.injEq] at converted
    rw [← converted]
    exact (Except.ok.inj coerced).symm
  | number number =>
    -- An integer is kept exact on both sides; any other number becomes a float on both, and `kept`
    -- rules the decimals out.
    cases fits : number.int64? with
    | some whole =>
      simp only [Literal.ofJson?, fits, Option.map_some, Option.getD_some, Option.some.injEq]
        at written
      subst written
      exact coerce_eq_convert_int fits converted coerced
    | none =>
      simp only [Literal.ofJson?, fits, Option.map_none, Option.getD_none, Option.some.injEq]
        at written
      subst written
      cases type with
      | int => simp [convert, fits] at converted
      | float =>
        rw [convert] at converted
        exact (Except.ok.inj coerced).symm.trans (Except.ok.inj converted)
      | decimal => exact absurd fits (kept rfl number rfl)
      | _ => cases coerced
  | string text =>
    cases written
    cases type with
    | string =>
      rw [convert] at converted
      exact (Except.ok.inj coerced).symm.trans (Except.ok.inj converted)
    | decimal | date | timestamp | uuid =>
      rw [convert] at converted
      exact readAs_eq_convertText converted coerced
    | _ => cases coerced
  | array items =>
    cases type <;> simp only [convert, reduceCtorEq] at converted
    cases scalar
  | object members => cases written

/-- A number that is no 64-bit integer equals itself beside decimals when the nearest double is exact. -/
theorem equal_decimal_iff (wide : number.int64? = none)
    (converted : convert place .decimal (.number number) = .ok value)
    (written : Literal.ofJson? (.number number) = some literal)
    (coerced : literal.coerce .decimal = .ok bound) :
    value.equal bound = true ↔ value.quantity? = number.double.value? := by
  -- For the field the digits count as they are written, and for the condition those of the double.
  simp only [Literal.ofJson?, wide, Option.map_none, Option.getD_none, Option.some.injEq] at written
  subst written
  rw [convert] at converted
  obtain ⟨decimal, -, rfl⟩ := convertText_decimal converted
  have stands := Double.toDecimal?_value number.double
  simp only [Literal.coerce] at coerced
  cases rounded : number.double.toDecimal? with
  | none =>
    rw [rounded] at coerced
    cases coerced
  | some nearest =>
    rw [rounded] at coerced stands
    obtain rfl := Except.ok.inj coerced
    rw [← stands, Value.equal_iff rfl rfl]
    exact (Option.some_inj).symm

/-- A scalar made of a JSON value equals what a literal read from it becomes, but for rounded decimals. -/
theorem equal_loaded_iff (scalar : type.isScalar = true) (known : json ≠ .number (.float .nan))
    (converted : convert place type json = .ok value)
    (written : Literal.ofJson? json = some literal)
    (coerced : literal.coerce type = .ok bound) :
    value.equal bound = true ↔
      (type = .decimal → ∀ number, json = .number number → number.int64? = none →
        value.quantity? = number.double.value?) := by
  by_cases kept : type = .decimal → ∀ number, json = .number number → number.int64? ≠ none
  · -- Both readings are one value then, which equals itself.
    obtain rfl := coerce_eq_convert scalar kept converted written coerced
    have conforms := convert_conforms scalar converted
    have same := equal_self scalar conforms (convert_ne_nan scalar known converted)
    exact iff_of_true same fun decimal number is wide => absurd wide (kept decimal number is)
  · push Not at kept
    obtain ⟨rfl, number, rfl, wide⟩ := kept
    rw [equal_decimal_iff wide converted written coerced]
    constructor
    · rintro same - other ⟨⟩ -
      exact same
    · exact fun exactly => exactly rfl number rfl wide

end Value

end RecordFilter
