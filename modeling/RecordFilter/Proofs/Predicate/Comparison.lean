import RecordFilter.Proofs.Predicate.Field
import RecordFilter.Proofs.Value.Conformity
import RecordFilter.Proofs.Value.Quantity

/-! Conditions that compare numbers: they are exact, except where a literal is rounded to a double. -/

namespace RecordFilter

namespace Operator

/-- The relation between two numbers that an operator asks about, if it is about their order. -/
def comparison? : Operator → Option (ℚ → ℚ → Prop)
  | .equal => some (· = ·)
  | .notEqual => some (· ≠ ·)
  | .greaterThan => some (· > ·)
  | .greaterOrEqual => some (· ≥ ·)
  | .lessThan => some (· < ·)
  | .lessOrEqual => some (· ≤ ·)
  | _ => none

variable {settings : Settings} {type : DataType} {operator : Operator} {literal : Literal}
  {actual bound : Value} {quantity limit : ℚ} {relation : ℚ → ℚ → Prop}

/-- A value has a rank beside a literal that becomes a number when their order is acceptable. -/
theorem ranks_eq (read : literal.coerce type = .ok bound) (held : actual.quantity? = some quantity)
    (stands : bound.quantity? = some limit) (acceptable : Ordering → Bool) :
    literal.ranks type acceptable actual = acceptable (cmp quantity limit) := by
  -- Both sides stand for rationals, and `Value.compare?` orders those exactly.
  rw [Literal.ranks, read, Except.toOption, Option.any_some, Value.compare?_eq held stands,
    Option.any_some]

/-- A value equals a literal that becomes a number when both stand for one number. -/
theorem equals_iff (read : literal.coerce type = .ok bound)
    (held : actual.quantity? = some quantity) (stands : bound.quantity? = some limit) :
    literal.equals type actual = true ↔ quantity = limit := by
  -- Equality is the `.eq` case of the same order.
  rw [← Value.equal_iff held stands]
  simp [Literal.equals, read, Except.toOption]

/-- What an operator asks of a number is its relation to the number that the literal becomes. -/
theorem asks_iff (compares : operator.comparison? = some relation)
    (read : literal.coerce type = .ok bound) (held : actual.quantity? = some quantity)
    (stands : bound.quantity? = some limit) :
    operator.asks settings type literal actual = true ↔ relation quantity limit := by
  cases operator <;> cases compares
  case equal => exact equals_iff read held stands
  case notEqual => simp [asks, ← equals_iff read held stands]
  -- Each order of two numbers is one of three outcomes of comparing them, or all but one.
  case greaterThan =>
    show _ ↔ quantity > limit
    rw [asks, ranks_eq read held stands, gt_iff_lt, ← cmp_eq_gt_iff]
    cases cmp quantity limit <;> decide
  case greaterOrEqual =>
    show _ ↔ quantity ≥ limit
    rw [asks, ranks_eq read held stands, ge_iff_le, ← not_lt, ← cmp_eq_lt_iff]
    cases cmp quantity limit <;> decide
  case lessThan =>
    show _ ↔ quantity < limit
    rw [asks, ranks_eq read held stands, ← cmp_eq_lt_iff]
    cases cmp quantity limit <;> decide
  case lessOrEqual =>
    show _ ↔ quantity ≤ limit
    rw [asks, ranks_eq read held stands, ← not_lt, ← cmp_eq_gt_iff]
    cases cmp quantity limit <;> decide

end Operator

namespace Filter

variable {settings : Settings} {schema : Schema} {path name spelling : String} {type : DataType}
  {literal : Literal} {bound : ℚ}

/-- Conditions on a numeric field are exact for every number just where the literal is not rounded. -/
theorem compile_compares_iff (read : Path.read path = .ok ⟨[⟨name, none⟩]⟩)
    (declared : schema.field? name = some (spelling, type)) (numeric : type.isNumeric = true)
    (stands : literal.quantity? = some bound) :
    (∀ (operator : Operator) (relation : ℚ → ℚ → Prop) (predicate : Predicate) (record : Record)
        (value : Value) (quantity : ℚ), operator.comparison? = some relation →
      (condition path operator (some literal) false).compile settings schema = .ok predicate →
      record.getExact? spelling = some value → value.Conforms type →
      value.quantity? = some quantity →
      (predicate.test record = true ↔ relation quantity bound)) ↔ literal.Widens type := by
  obtain ⟨other, result, becomes, stood, widens⟩ := Literal.coerce_quantity numeric stands
  have single := DataType.isList_of_numeric numeric
  constructor
  · -- The number that the literal is rounded to is equal to it by the condition.
    intro exactly
    cases literal with
    | int whole =>
      intro fraction
      subst fraction
      have accepted : Operator.equal.Accepts settings .float (.int whole) :=
        Literal.exists_coerce.1 ⟨other, becomes⟩
      obtain ⟨predicate, compiled⟩ : (condition path .equal (some (.int whole)) false).Compiles
          settings schema := (compiles_field_iff read declared).2 ⟨rfl, accepted⟩
      have there : (⟨[(spelling, other)]⟩ : Record).getExact? spelling = some other := by
        simp [Record.getExact?, Fields.getExact?, Fields.lookupExact?]
      have conforms : other.Conforms .float :=
        (Value.coerce_conforms becomes).1.resolve_right fun wrong => by cases wrong.1
      have passes : predicate.test ⟨[(spelling, other)]⟩ = true := by
        rw [test_field read declared single compiled, there, Bool.bne_false]
        exact (Operator.asks_iff rfl becomes stood stood).2 rfl
      have same : result = bound :=
        (exactly .equal _ predicate _ other result rfl compiled there conforms stood).1 passes
      cases conforms with
      | null => cases stood
      | float => exact ⟨_, stood.trans (by rw [same, ← Option.some.inj stands])⟩
    | _ => trivial
  · intro widened operator relation predicate record value quantity compares compiled there _ held
    rw [test_field read declared single compiled, there, Bool.bne_false, ← widens widened]
    exact Operator.asks_iff compares becomes held stood

/-- Three is a double, so beside fractions it is compared with every total as it is. -/
theorem compile_compares_total :
    let schema : Schema := ⟨"Order", [("total", .float)]⟩
    ∀ (operator : Operator) (relation : ℚ → ℚ → Prop) (predicate : Predicate) (record : Record)
        (value : Value) (quantity : ℚ), operator.comparison? = some relation →
      (condition "Total" operator (some (.int 3)) false).compile .standard schema = .ok predicate →
      record.getExact? "total" = some value → value.Conforms .float →
      value.quantity? = some quantity → (predicate.test record = true ↔ relation quantity 3) := by
  -- Three is small enough for the field's floats to hold it exactly.
  intro schema
  have widens : (Literal.int 3).Widens .float := Literal.widens_of_natAbs_le (by decide)
  exact (compile_compares_iff rfl rfl rfl rfl).2 widens

/-- The integer after two to the power of 53 is equal to it by a condition on fractions. -/
theorem compile_compares_rounded :
    ∃ (predicate : Predicate) (total : Double),
      (condition "total" .equal (some (.int 9007199254740993)) false).compile .standard
        ⟨"Order", [("total", .float)]⟩ = .ok predicate ∧
      total.value? = some 9007199254740992 ∧
      predicate.test ⟨[("total", .float total)]⟩ = true := by
  -- The literal is one above 2^53, whose float is given by its bits.
  have exactly : Double.magnitude 4845873199050653696 = (9007199254740992 : Nat) :=
    Double.magnitude_eq_iff.2 (by decide +kernel)
  exact ⟨_, .finite false ⟨4845873199050653696, by decide⟩, rfl, congrArg some exactly,
    by decide +kernel⟩

end Filter

end RecordFilter
