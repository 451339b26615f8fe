import RecordFilter.Predicate.Coercion
import RecordFilter.Proofs.Number.Rounding

/-! The numbers that values and literals stand for, and why comparing values compares those numbers. -/

namespace RecordFilter

/-- A finite double has an exact decimal, which stands for the same number. -/
theorem Double.exists_toDecimal? {number : Double} {quantity : ℚ}
    (stands : number.value? = some quantity) :
    ∃ decimal, number.toDecimal? = some decimal ∧ decimal.value = quantity := by
  -- `toDecimal?_value` says which number the decimal has, and so that there is one.
  rw [← toDecimal?_value] at stands
  exact Option.map_eq_some_iff.1 stands

/-- The number that a value stands for, whatever kind of number it is. -/
def Value.quantity? : Value → Option ℚ
  | .int value => some value.toInt
  | .float value => value.value?
  | .decimal value => some value.value
  | _ => none

/-- A double stands for the same number as a value. -/
@[simp] theorem Value.quantity?_float (number : Double) :
    (Value.float number).quantity? = number.value? :=
  rfl

/-- The value is neither null nor made of parts. -/
def Value.isScalar : Value → Bool
  | .null | .list _ | .record _ => false
  | _ => true

/-- What holds of a value whenever it holds of its parts holds of every value. -/
@[elab_as_elim]
theorem Value.byParts {motive : Value → Prop} (null : motive .null)
    (scalar : ∀ value : Value, value.isScalar = true → motive value)
    (list : ∀ items, (∀ item ∈ items, motive item) → motive (.list items))
    (record : ∀ fields, (∀ field ∈ fields, motive field.2) → motive (.record fields))
    (value : Value) : motive value := by
  -- The recursion goes down in size, which for a record's field has to be spelled out.
  cases value with
  | null => exact null
  | list items => exact list items fun item member => byParts null scalar list record item
  | record fields =>
    refine record fields fun ⟨name, held⟩ member => ?_
    have smaller : sizeOf held < sizeOf fields := by
      have inside := List.sizeOf_lt_of_mem member
      simp only [Prod.mk.sizeOf_spec] at inside
      omega
    exact byParts null scalar list record held
  | _ => exact scalar _ rfl
termination_by sizeOf value

/-- The number that a literal stands for as it is written. -/
def Literal.quantity? : Literal → Option ℚ
  | .int value => some value.toInt
  | .float value => value.value?
  | _ => none

/-- Beside values of the type the literal can be a number of the same size. -/
def Literal.Widens (type : DataType) : Literal → Prop
  -- Integers beside doubles are the only literals that become numbers of another kind by rounding.
  | .int whole => type = .float → ∃ number : Double, number.value? = some (whole.toInt : ℚ)
  | _ => True

namespace Value

variable {left right : Value} {low high : ℚ}

/-- Integers are ordered as the rational numbers that they are. -/
theorem compare_toInt (left right : Int) : compare left right = cmp (left : ℚ) right := by
  rw [← cmp_eq_compare, Int.cast_strictMono.cmp_map_eq]

/-- An integer stands beside a finite double as the numbers do that they stand for. -/
theorem compareIntFloat?_eq {whole : Int64} {number : Double}
    (stands : number.value? = some high) :
    compareIntFloat? whole number = some (cmp (whole.toInt : ℚ) high) := by
  -- The float is written as a decimal first, so nothing is rounded.
  obtain ⟨decimal, written, rfl⟩ := Double.exists_toDecimal? stands
  cases number with
  | nan | infinite negative => cases stands
  | finite negative rank =>
    show (Double.finite negative rank).toDecimal?.map (Decimal.ofInt whole.toInt).compare = _
    rw [written, Option.map_some, Decimal.compare_eq, Decimal.value_ofInt]

/-- Numbers of any kinds are ordered as the numbers that they stand for. -/
theorem compare?_eq (first : left.quantity? = some low) (second : right.quantity? = some high) :
    left.compare? right = some (cmp low high) := by
  -- Each kind is brought to a decimal where the other one is of another kind.
  cases left with
  | int whole =>
    obtain rfl := Option.some.inj first
    cases right with
    | int other =>
      obtain rfl := Option.some.inj second
      exact congrArg some (compare_toInt _ _)
    | float other => exact compareIntFloat?_eq second
    | decimal other =>
      obtain rfl := Option.some.inj second
      rw [compare?, Decimal.compare_eq, Decimal.value_ofInt]
    | _ => cases second
  | float number =>
    cases right with
    | int other =>
      obtain rfl := Option.some.inj second
      rw [compare?, compareIntFloat?_eq first, Option.map_some, cmp_swap]
    | float other => exact Double.compare?_eq first second
    | decimal other =>
      obtain rfl := Option.some.inj second
      obtain ⟨decimal, written, rfl⟩ := Double.exists_toDecimal? first
      rw [compare?, written, Option.map_some, Decimal.compare_eq]
    | _ => cases second
  | decimal number =>
    obtain rfl := Option.some.inj first
    cases right with
    | int other =>
      obtain rfl := Option.some.inj second
      rw [compare?, Decimal.compare_eq, Decimal.value_ofInt]
    | float other =>
      obtain ⟨decimal, written, rfl⟩ := Double.exists_toDecimal? second
      rw [compare?, written, Option.map_some, Decimal.compare_eq]
    | decimal other =>
      obtain rfl := Option.some.inj second
      rw [compare?, Decimal.compare_eq]
    | _ => cases second
  | _ => cases first

/-- What has an order beside something is a scalar. -/
theorem isScalar_of_compare? {order : Ordering} (answered : left.compare? right = some order) :
    left.isScalar = true := by
  -- On null, lists and records `compare?` answers none.
  cases left with
  | null | list | record => cases right <;> cases answered
  | _ => rfl

/-- Scalars are equal to what has the same order as they have themselves. -/
theorem equal_eq_compare? (scalar : left.isScalar = true) :
    left.equal right = (left.compare? right == some .eq) := by
  -- Off null, lists and records `Value.equal` is defined by the order.
  cases left with
  | null | list | record => cases scalar
  | _ => cases right <;> rfl

/-- Numbers of any kinds are equal when they stand for one number. -/
theorem equal_iff (first : left.quantity? = some low) (second : right.quantity? = some high) :
    left.equal right = true ↔ low = high := by
  -- Two quantities are ordered as rationals, and `.eq` means they are the same.
  have answered := compare?_eq first second
  rw [equal_eq_compare? (isScalar_of_compare? answered), answered, beq_iff_eq, Option.some_inj,
    cmp_eq_eq_iff]

end Value

namespace Literal

variable {type : DataType} {literal : Literal} {quantity : ℚ}

/-- Every 64-bit integer is rounded to a finite double. -/
theorem exists_ofInt_value? (whole : Int64) :
    ∃ result, (Double.ofInt whole.toInt).value? = some result := by
  -- The largest machine integer is far below the largest float.
  have least := whole.le_toInt
  have greatest := whole.toInt_lt
  have within : whole.toInt.natAbs ≤ 2 ^ 63 := by omega
  exact Double.exists_value? (Double.ofInt_isFinite (by decide) within)

/-- Integers up to two to the power of 53 in size are not rounded beside doubles. -/
theorem widens_of_natAbs_le {whole : Int64} (small : whole.toInt.natAbs ≤ 2 ^ 53) :
    (Literal.int whole).Widens type :=
  fun _ => Double.exists_value?_eq small

/-- Beside a numeric type a number becomes a number, and the same one if the literal widens. -/
theorem coerce_quantity (numeric : type.isNumeric = true)
    (stands : literal.quantity? = some quantity) :
    ∃ value result, literal.coerce type = .ok value ∧ value.quantity? = some result ∧
      (literal.Widens type → result = quantity) := by
  -- Only an integer beside a float field may change its quantity, by rounding.
  cases literal with
  | int whole =>
    obtain rfl := Option.some.inj stands
    cases type with
    | int => exact ⟨.int whole, _, rfl, rfl, fun _ => rfl⟩
    | decimal => exact ⟨.decimal (.ofInt whole.toInt), _, rfl, rfl, fun _ => Decimal.value_ofInt _⟩
    | float =>
      obtain ⟨result, rounded⟩ := exists_ofInt_value? whole
      refine ⟨_, result, rfl, (Value.quantity?_float _).trans rounded, fun widens => ?_⟩
      obtain ⟨number, same⟩ := widens rfl
      exact Option.some.inj (rounded.symm.trans (Double.ofInt_value? same))
    | _ => cases numeric
  | float number =>
    cases type with
    | int | float => exact ⟨.float number, _, rfl, stands, fun _ => rfl⟩
    | decimal =>
      obtain ⟨decimal, written, same⟩ := Double.exists_toDecimal? stands
      exact ⟨.decimal decimal, _, by simp [coerce, written], rfl, fun _ => same⟩
    | _ => cases numeric
  | _ => cases stands

end Literal

end RecordFilter
