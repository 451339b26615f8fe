import Mathlib.Algebra.Order.Ring.Rat
import Mathlib.Order.Std
import Mathlib.Order.WithBot
import RecordFilter.Proofs.Value.Quantity

/-! What scalars are compared by: numbers of all kinds by their places on one line, other kinds each by itself. -/

namespace RecordFilter

/-- Dates are ordered by year, month and day in turn, each of which is ordered in the usual way. -/
instance Date.transCmp : Std.TransCmp Date.compare :=
  inferInstanceAs (Std.TransCmp
    (compareLex (compareOn Date.year) (compareLex (compareOn Date.month) (compareOn Date.day))))

/-- Timestamps are ordered by date, second and nanosecond in turn. -/
instance Timestamp.transCmp : Std.TransCmp Timestamp.compare :=
  letI : Ord Date := ⟨Date.compare⟩
  haveI : Std.TransOrd Date := Date.transCmp
  inferInstanceAs (Std.TransCmp
    (compareLex (compareOn Timestamp.date) (compareLex (compareOn fun time : Timestamp => time.second.val)
      (compareOn fun time : Timestamp => time.nanosecond.val))))

/-- Identifiers are ordered as the numbers that their bits are. -/
instance Uuid.transCmp : Std.TransCmp Uuid.compare :=
  inferInstanceAs (Std.TransCmp (compareOn fun identifier : Uuid => identifier.bits.toNat))

/-- What a scalar is compared by: a place on the number line, infinities included, or what it is. -/
inductive Standing
  | number (place : WithBot (WithTop ℚ))
  | string (text : String)
  | boolean (value : Bool)
  | date (day : Date)
  | timestamp (time : Timestamp)
  | uuid (identifier : Uuid)

namespace Standing

/-- A rational number as a place on the line that has the infinities at its ends. -/
def point (quantity : ℚ) : WithBot (WithTop ℚ) :=
  ((quantity : WithTop ℚ) : WithBot (WithTop ℚ))

/-- The place of an infinity, beyond all rational numbers on its side. -/
def bound (negative : Bool) : WithBot (WithTop ℚ) :=
  if negative then ⊥ else ⊤

/-- Rational numbers keep their order on the longer line. -/
theorem compare_point (low high : ℚ) : compare (point low) (point high) = cmp low high := by
  -- Points keep their order when the two bounds are put around them.
  have lifted : StrictMono point := WithBot.coe_strictMono.comp WithTop.coe_strictMono
  rw [← cmp_eq_compare, lifted.cmp_map_eq]

/-- An infinity lies before or behind every rational number. -/
theorem compare_bound (negative : Bool) (quantity : ℚ) :
    compare (bound negative) (point quantity) = if negative then .lt else .gt := by
  -- Minus infinity is the bottom of the line, plus infinity its top.
  cases negative with
  | true => exact compare_lt_iff_lt.2 (WithBot.bot_lt_coe _)
  | false => exact compare_gt_iff_gt.2 (WithBot.coe_lt_coe.2 (WithTop.coe_lt_top _))

/-- Standings of one kind have an order. -/
def compare? : Standing → Standing → Option Ordering
  | .number left, .number right => some (compare left right)
  | .string left, .string right => some (compare left right)
  | .boolean left, .boolean right => some (compare left right)
  | .date left, .date right => some (left.compare right)
  | .timestamp left, .timestamp right => some (left.compare right)
  | .uuid left, .uuid right => some (left.compare right)
  | _, _ => none

/-- Two steps that do not lead back lead to an order as a whole that is as strict as either of them. -/
structure Chained (first second through : Ordering) : Prop where
  atMost : through.isLE = true
  strict : first = .lt ∨ second = .lt → through = .lt

/-- In an order of one kind, what is at most the second is at most whatever the second is at most. -/
theorem chained {compare : α → α → Ordering} [Std.TransCmp compare] {low middle high : α}
    (first : (compare low middle).isLE = true) (second : (compare middle high).isLE = true) :
    Chained (compare low middle) (compare middle high) (compare low high) := by
  -- At most, at most gives at most; one strict step makes the whole strict.
  refine ⟨Std.TransCmp.isLE_trans first second, fun strict => ?_⟩
  rcases strict with less | less
  · exact Std.TransCmp.lt_of_lt_of_isLE less second
  · exact Std.TransCmp.lt_of_isLE_of_lt first less

/-- Standings of which each has an order beside the next have one beside each other. -/
theorem compare?_chained {low middle high : Standing} {first second : Ordering}
    (below : low.compare? middle = some first) (above : middle.compare? high = some second)
    (atMost : first.isLE = true) (onward : second.isLE = true) :
    ∃ through, low.compare? high = some through ∧ Chained first second through := by
  -- All three are of one kind, in which the order is that of the kind.
  cases low <;> cases middle <;> cases below <;> cases high <;> cases above <;>
    exact ⟨_, rfl, chained atMost onward⟩

end Standing

/-- Decimals are ordered the other way round when they change places. -/
theorem Decimal.compare_swap (left right : Decimal) :
    right.compare left = (left.compare right).swap := by
  rw [compare_eq, compare_eq, cmp_swap]

/-- Doubles are ordered the other way round when they change places. -/
theorem Double.compare?_swap (left right : Double) :
    right.compare? left = (left.compare? right).map Ordering.swap := by
  -- Only NaN has no position, and positions are integers.
  unfold compare?
  cases left.position? with
  | none => cases right.position? <;> rfl
  | some here =>
    cases right.position? with
    | none => rfl
    | some there => exact congrArg some Std.OrientedCmp.eq_swap

namespace Value

/-- Values are ordered the other way round when they change places, or have no order either way. -/
theorem compare?_swap (left right : Value) :
    right.compare? left = (left.compare? right).map Ordering.swap := by
  -- Orders of two kinds of numbers are written for one direction and turned around for the other.
  cases left with
  | int whole =>
    cases right with
    | int other => exact congrArg some Std.OrientedCmp.eq_swap
    | decimal other => exact congrArg some (Decimal.compare_swap _ _)
    | _ => rfl
  | float number =>
    cases right with
    | int other => simp [compare?, Function.comp_def]
    | float other => exact Double.compare?_swap _ _
    | decimal other =>
      simp only [compare?, Option.map_map]
      exact congrArg (Option.map · _) (funext fun exact => Decimal.compare_swap _ _)
    | _ => rfl
  | decimal number =>
    cases right with
    | int other => exact congrArg some (Decimal.compare_swap _ _)
    | float other =>
      simp only [compare?, Option.map_map]
      exact congrArg (Option.map · _) (funext fun exact => Decimal.compare_swap _ _)
    | decimal other => exact congrArg some (Decimal.compare_swap _ _)
    | _ => rfl
  | string | boolean | date | timestamp | uuid =>
    cases right <;> first | rfl | exact congrArg some Std.OrientedCmp.eq_swap
  | null | list | record => cases right <;> rfl

/-- Which of two values comes first does not count where neither comes before the other. -/
theorem compare?_eq_comm {left right : Value} :
    left.compare? right = some .eq ↔ right.compare? left = some .eq := by
  rw [compare?_swap left right, Option.map_eq_some_iff]
  simp [Ordering.swap_eq_eq]

/-- The place of a number on the line; the infinities stand at its ends, and NaN has no place. -/
def place? : Value → Option (WithBot (WithTop ℚ))
  | .float (.infinite negative) => some (Standing.bound negative)
  | value => value.quantity?.map Standing.point

/-- What a value is compared by, if it can be compared with anything. -/
def standing? : Value → Option Standing
  | .string text => some (.string text)
  | .boolean value => some (.boolean value)
  | .date day => some (.date day)
  | .timestamp time => some (.timestamp time)
  | .uuid identifier => some (.uuid identifier)
  | value => value.place?.map .number

variable {left right : Value} {low high : WithBot (WithTop ℚ)} {order : Ordering}

/-- A number with a place is one of the rational numbers or one of the infinities. -/
theorem place?_cases (placed : left.place? = some low) :
    (∃ quantity, left.quantity? = some quantity ∧ Standing.point quantity = low) ∨
      ∃ negative, left = .float (.infinite negative) ∧ Standing.bound negative = low := by
  -- A number stands at its quantity or, if infinite, at a bound.
  unfold place? at placed
  split at placed
  · exact .inr ⟨_, rfl, Option.some.inj placed⟩
  · exact .inl (Option.map_eq_some_iff.1 placed)

/-- An infinity comes before or after every other number beside which it has an order. -/
theorem infinite_compare? {negative : Bool} {quantity : ℚ} (stands : right.quantity? = some quantity)
    (answered : (float (.infinite negative)).compare? right = some order) :
    order = if negative then .lt else .gt := by
  cases right with
  | int whole => cases negative <;> exact (Option.some.inj answered).symm
  | decimal number => cases answered
  | float number =>
    cases number with
    | nan | infinite => cases stands
    | finite sign rank =>
      -- Every finite rank is below the number of ranks, where the infinities stand.
      have within : (rank : Nat) < Double.rankCount := rank.isLt
      rw [← Option.some.inj answered]
      cases negative with
      | true =>
        refine Int.compare_eq_lt.2 ?_
        rw [if_pos rfl]
        split <;> omega
      | false =>
        refine Int.compare_eq_gt.2 ?_
        rw [if_neg Bool.false_ne_true]
        split <;> omega
  | _ => cases stands

/-- Numbers that have an order are ordered as their places on the line. -/
theorem compare?_place (first : left.place? = some low) (second : right.place? = some high)
    (answered : left.compare? right = some order) : order = compare low high := by
  -- Two rational numbers are compared as such, and otherwise an infinity decides.
  rcases place?_cases first with ⟨quantity, stands, rfl⟩ | ⟨negative, rfl, rfl⟩
  · rcases place?_cases second with ⟨other, standsOther, rfl⟩ | ⟨negative, rfl, rfl⟩
    · rw [Standing.compare_point]
      exact Option.some.inj (answered.symm.trans (compare?_eq stands standsOther))
    · have turned : (float (.infinite negative)).compare? left = some order.swap := by
        rw [compare?_swap, answered, Option.map_some]
      have swapped : order.swap = if negative then .lt else .gt := infinite_compare? stands turned
      rw [Std.OrientedOrd.eq_swap, Standing.compare_bound, ← swapped, Ordering.swap_swap]
  · rcases place?_cases second with ⟨other, standsOther, rfl⟩ | ⟨other, rfl, rfl⟩
    · rw [Standing.compare_bound]
      exact infinite_compare? standsOther answered
    · rw [← Option.some.inj answered]
      cases negative <;> cases other <;> decide

/-- Only a value that has a standing has an order beside any other one. -/
theorem exists_standing (answered : left.compare? right = some order) :
    ∃ standing, left.standing? = some standing := by
  -- Null, lists, records and NaN have no order beside anything.
  cases left with
  | float number =>
    cases number with
    | nan => cases right <;> cases answered
    | infinite | finite => exact ⟨_, rfl⟩
  | null | list | record => cases right <;> cases answered
  | _ => exact ⟨_, rfl⟩

/-- Values that have an order are ordered as what they are compared by. -/
theorem compare?_standing {here there : Standing} (first : left.standing? = some here)
    (second : right.standing? = some there) (answered : left.compare? right = some order) :
    here.compare? there = some order := by
  -- The places of two numbers decide, and other kinds are compared by what they are.
  have places : ∀ low high : WithBot (WithTop ℚ), left.place? = some low →
      right.place? = some high → Standing.compare? (.number low) (.number high) = some order := by
    intro low high placed beside
    exact congrArg some (compare?_place placed beside answered).symm
  cases left with
  | null | list | record => cases first
  | int | float | decimal =>
    simp only [standing?, Option.map_eq_some_iff] at first
    obtain ⟨low, placed, rfl⟩ := first
    cases right with
    | int | float | decimal =>
      simp only [standing?, Option.map_eq_some_iff] at second
      obtain ⟨high, beside, rfl⟩ := second
      exact places low high placed beside
    | _ => cases answered
  | _ =>
    cases first
    cases right <;> first | (cases second; exact answered) | cases answered

/-- Where all three values have orders, the order of the outer two follows from those beside the middle one. -/
theorem compare?_chained {low middle high : Value} {first second through : Ordering}
    (below : low.compare? middle = some first) (above : middle.compare? high = some second)
    (answered : low.compare? high = some through) (atMost : first.isLE = true)
    (onward : second.isLE = true) : Standing.Chained first second through := by
  -- Each value that has an order has a standing, so the chain is one of standings.
  obtain ⟨start, first⟩ := exists_standing below
  obtain ⟨between, second⟩ := exists_standing above
  obtain ⟨ending, third⟩ : ∃ standing, high.standing? = some standing := by
    have turned := compare?_swap low high
    rw [answered, Option.map_some] at turned
    exact exists_standing turned
  have here := compare?_standing first second below
  have there := compare?_standing second third above
  obtain ⟨whole, across, chained⟩ := Standing.compare?_chained here there atMost onward
  obtain rfl := Option.some.inj (across.symm.trans (compare?_standing first third answered))
  exact chained

end Value

end RecordFilter
