import RecordFilter.Proofs.Value.Conformity
import RecordFilter.Proofs.Value.Standing

/-! The order of values as one exact order, and the pairs of numbers that it leaves without one. -/

namespace RecordFilter

/-- Standings of which each has an order beside the next have an order beside each other. -/
theorem Standing.exists_compare? {low middle high : Standing} {first second : Ordering}
    (below : low.compare? middle = some first) (above : middle.compare? high = some second) :
    ∃ through, low.compare? high = some through := by
  -- Only standings of one kind have an order, so all three are of the same kind.
  cases low <;> cases middle <;> cases below <;> cases high <;> cases above <;> exact ⟨_, rfl⟩

namespace Value

/-- The value is a number of any kind, be it infinite or NaN. -/
def isNumber : Value → Bool
  | .int _ | .float _ | .decimal _ => true
  | _ => false

/-- An infinity stands beside a decimal, which is the same on either side. -/
inductive Apart : Value → Value → Prop
  | infinite {negative : Bool} {number : Decimal} :
      Apart (.float (.infinite negative)) (.decimal number)
  | decimal {negative : Bool} {number : Decimal} :
      Apart (.decimal number) (.float (.infinite negative))

variable {left right : Value} {here there : Standing} {low high : WithBot (WithTop ℚ)}
  {quantity : ℚ}

/-- Every number but NaN has a place on the line. -/
theorem exists_place? (number : left.isNumber = true) (known : left.isNaN = false) :
    ∃ place, left.place? = some place := by
  -- Integers and decimals have one by definition; of the three kinds of floats NaN is excluded.
  cases left with
  | int | decimal => exact ⟨_, rfl⟩
  | float value =>
    cases value with
    | nan => cases known
    | infinite | finite => exact ⟨_, rfl⟩
  | _ => cases number

/-- Which of two values is the infinity does not count for their being apart. -/
theorem Apart.symm (apart : Apart left right) : Apart right left := by
  cases apart with
  | infinite => exact .decimal
  | decimal => exact .infinite

/-- An infinity and a decimal have no order. -/
theorem Apart.compare?_eq_none (apart : Apart left right) : left.compare? right = none := by
  -- The exact decimal that an infinity would be compared by does not exist.
  cases apart <;> rfl

/-- An infinity has an order beside every finite number that is no decimal. -/
theorem exists_infinite_compare? {negative : Bool} (stands : right.quantity? = some quantity)
    (together : ¬ Apart (.float (.infinite negative)) right) :
    ∃ order, (float (.infinite negative)).compare? right = some order := by
  -- What is left is an integer or a finite float, as `Apart` sets the decimals apart.
  cases right with
  | int whole => exact ⟨_, rfl⟩
  | float number =>
    cases number with
    | nan | infinite => cases stands
    | finite sign rank => exact ⟨_, rfl⟩
  | decimal number => exact absurd .infinite together
  | _ => cases stands

/-- Numbers with places on the line have an order unless they are apart. -/
theorem exists_compare?_of_place (first : left.place? = some low)
    (second : right.place? = some high) :
    (∃ order, left.compare? right = some order) ↔ ¬ Apart left right := by
  constructor
  · intro given apart
    rcases given with ⟨order, answered⟩
    rw [apart.compare?_eq_none] at answered
    cases answered
  · intro together
    -- Finite numbers are compared exactly, and only an infinity may be left without an order.
    rcases place?_cases first with ⟨quantity, stands, -⟩ | ⟨negative, rfl, -⟩
    · rcases place?_cases second with ⟨other, standsOther, -⟩ | ⟨negative, rfl, -⟩
      · exact ⟨_, compare?_eq stands standsOther⟩
      · have apart : ¬ Apart (.float (.infinite negative)) left := fun apart => together apart.symm
        obtain ⟨order, answered⟩ := exists_infinite_compare? stands apart
        exact ⟨order.swap, by rw [compare?_swap, answered, Option.map_some]⟩
    · rcases place?_cases second with ⟨other, standsOther, -⟩ | ⟨other, rfl, -⟩
      · exact exists_infinite_compare? standsOther together
      · exact ⟨_, rfl⟩

/-- Values have an order when what they are compared by has one, unless they are apart. -/
theorem exists_compare?_iff (first : left.standing? = some here)
    (second : right.standing? = some there) :
    (∃ order, left.compare? right = some order) ↔
      (∃ order, here.compare? there = some order) ∧ ¬ Apart left right := by
  constructor
  · intro given
    rcases given with ⟨order, answered⟩
    refine ⟨⟨order, compare?_standing first second answered⟩, fun apart => ?_⟩
    rw [apart.compare?_eq_none] at answered
    cases answered
  · intro given
    rcases given with ⟨⟨order, beside⟩, together⟩
    cases left with
    | null | list | record => cases first
    | int | float | decimal =>
      simp only [standing?, Option.map_eq_some_iff] at first
      obtain ⟨low, placed, rfl⟩ := first
      cases right with
      | int | float | decimal =>
        simp only [standing?, Option.map_eq_some_iff] at second
        obtain ⟨high, placedOther, rfl⟩ := second
        exact (exists_compare?_of_place placed placedOther).2 together
      | null | list | record => cases second
      | _ =>
        -- A number and a value of another kind have no order by what they are compared by.
        cases second
        cases beside
    | _ =>
      cases first
      cases right with
      | int | float | decimal =>
        simp only [standing?, Option.map_eq_some_iff] at second
        obtain ⟨high, -, rfl⟩ := second
        cases beside
      | null | list | record => cases second
      | _ =>
        -- Values of one kind are ordered as such, and two different kinds not at all.
        cases second
        first | exact ⟨_, rfl⟩ | cases beside

/--
The order of values is one order, and that of the numbers they stand for where they are finite.

It turns around with its arguments and carries on from value to value, the infinities lie beyond
every integer, and NaN is left out.
-/
theorem compare?_consistent :
    (∀ left right : Value, right.compare? left = (left.compare? right).map Ordering.swap) ∧
    (∀ (low middle high : Value) (first second through : Ordering),
      low.compare? middle = some first → middle.compare? high = some second →
      low.compare? high = some through → first.isLE = true → second.isLE = true →
      through.isLE = true ∧ (first = .lt ∨ second = .lt → through = .lt)) ∧
    (∀ (left right : Value) (low high : ℚ), left.quantity? = some low →
      right.quantity? = some high → left.compare? right = some (cmp low high)) ∧
    (∀ whole : Int64, (int whole).compare? (float (.infinite false)) = some .lt ∧
      (int whole).compare? (float (.infinite true)) = some .gt) ∧
    ∀ value : Value, (float .nan).compare? value = none ∧ value.compare? (float .nan) = none := by
  refine ⟨compare?_swap, ?_, fun left right low high => compare?_eq, fun whole => ⟨rfl, rfl⟩, ?_⟩
  · intro low middle high first second through below above answered atMost onward
    have chained := compare?_chained below above answered atMost onward
    exact ⟨chained.atMost, chained.strict⟩
  · intro value
    -- No kind of value has an order beside NaN, so the other direction has none either.
    have left : (float .nan).compare? value = none := by cases value <;> rfl
    refine ⟨left, ?_⟩
    rw [compare?_swap, left, Option.map_none]

/-- The integer after two to the power of 53 comes after the double nearest to it, from either side. -/
theorem compare?_consistent_rounded :
    let nearest : Double := .finite false ⟨4845873199050653696, by decide⟩
    (int 9007199254740993).compare? (float nearest) = some .gt ∧
      (float nearest).compare? (int 9007199254740993) = some .lt := by
  -- The integer is one above 2^53, where the float has no neighbour to hold it.
  intro nearest
  have exactly : Double.magnitude 4845873199050653696 = (9007199254740992 : Nat) :=
    Double.magnitude_eq_iff.2 (by decide +kernel)
  obtain ⟨swapped, -, numbers, -, -⟩ := compare?_consistent
  have greater : cmp (9007199254740993 : ℚ) (9007199254740992 : Nat) = .gt := by
    rw [cmp_eq_gt_iff]
    norm_num
  have answered : (int 9007199254740993).compare? (float nearest) = some .gt := by
    rw [← greater]
    exact numbers _ _ _ _ rfl (congrArg some exactly)
  exact ⟨answered, by rw [swapped, answered, Option.map_some]; rfl⟩

/--
Values that have an order beside the same one have one beside each other, unless they are apart.

So have any two numbers but NaN, of whatever kinds.
-/
theorem compare?_unless_apart (low middle high : Value) :
    (∀ first second : Ordering, low.compare? middle = some first →
      middle.compare? high = some second →
      ((∃ through, low.compare? high = some through) ↔ ¬ Apart low high)) ∧
    (low.isNumber = true → low.isNaN = false → high.isNumber = true → high.isNaN = false →
      ((∃ through, low.compare? high = some through) ↔ ¬ Apart low high)) := by
  constructor
  · intro first second below above
    -- The standings of the outer values are of the kind that the middle one has.
    obtain ⟨start, standsLow⟩ := exists_standing below
    obtain ⟨between, standsMiddle⟩ := exists_standing above
    have turned : high.compare? middle = some second.swap := by
      rw [compare?_swap, above, Option.map_some]
    obtain ⟨ending, standsHigh⟩ := exists_standing turned
    have across := Standing.exists_compare? (compare?_standing standsLow standsMiddle below)
      (compare?_standing standsMiddle standsHigh above)
    rw [exists_compare?_iff standsLow standsHigh, and_iff_right across]
  · intro number known numberOther knownOther
    obtain ⟨place, placed⟩ := exists_place? number known
    obtain ⟨other, placedOther⟩ := exists_place? numberOther knownOther
    exact exists_compare?_of_place placed placedOther

/-- One as an integer has an order beside both infinities, but one as a decimal has none. -/
theorem compare?_unless_apart_one :
    (∃ through, (float (.infinite true)).compare? (float (.infinite false)) = some through) ∧
      ¬ ∃ through, (decimal ⟨10, 1⟩).compare? (float (.infinite false)) = some through := by
  -- Going through the integer one works for two infinities, not from a decimal.
  have above : (int 1).compare? (float (.infinite false)) = some .lt := rfl
  constructor
  · obtain ⟨through, -⟩ :=
      compare?_unless_apart (float (.infinite true)) (int 1) (float (.infinite false))
    exact (through _ _ rfl above).2 nofun
  · intro answered
    have level : (decimal ⟨10, 1⟩).compare? (int 1) = some .eq := by decide +kernel
    obtain ⟨through, -⟩ := compare?_unless_apart (decimal ⟨10, 1⟩) (int 1) (float (.infinite false))
    exact (through _ _ level above).1 answered .decimal

/-- To have an order is not carried on from value to value, as one and an infinity show. -/
theorem compare?_not_carried_on :
    ¬ ∀ low middle high : Value, low.isNaN = false → middle.isNaN = false → high.isNaN = false →
      (low.compare? middle).isSome = true → (middle.compare? high).isSome = true →
      (low.compare? high).isSome = true := by
  -- A decimal equals an integer and the integer is below infinity, yet the decimal has no order
  -- with it.
  intro carried
  have present := carried (decimal ⟨1, 0⟩) (int 1) (float (.infinite false)) rfl rfl rfl
    (by decide +kernel) rfl
  cases present

end Value

end RecordFilter
