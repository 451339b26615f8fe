import RecordFilter.Number.Double
import RecordFilter.Numeral.Layout

/-! The fewest digits that read back as a given binary64 number. -/

namespace RecordFilter.Double

open Numeral (Scientific digitCount)

/-- Which way a number halfway between its two neighbours on a decimal grid goes. -/
inductive Tie
  | up
  | toEven
  deriving DecidableEq, Repr

/-- The digits read back as the magnitude of a rank. -/
def readsBack (rank : Nat) (number : Scientific) : Bool :=
  ofScientific false number.digits number.exponent == ofRank false rank

/-- The neighbour of an exact magnitude, on the grid that drops some of its digits, which reads back. -/
def onGrid? (tie : Tie) (rank : Nat) (exact : Scientific) (dropped : Nat) : Option Scientific :=
  -- Where both neighbours read back the nearer one is taken, and the tie rule decides between equals.
  let low : Scientific := ⟨exact.digits / Nat.pow 10 dropped, exact.exponent + dropped⟩
  let high : Scientific := ⟨low.digits + 1, low.exponent⟩
  match readsBack rank low, readsBack rank high with
  | true, true =>
    match compare (2 * (exact.digits % Nat.pow 10 dropped)) (Nat.pow 10 dropped) with
    | .lt => some low
    | .gt => some high
    | .eq => some (if tie = .toEven ∧ low.digits % 2 = 0 then low else high)
  | true, false => some low
  | false, true => some high
  | false, false => none

/-- The shortest digits of a magnitude; seventeen always suffice, and its exact digits follow them. -/
def shortest (tie : Tie) (rank : Nat) : Scientific :=
  -- The grids are tried from the coarsest one, so the first hit has the fewest digits.
  let decimal := exactMagnitude rank
  let exact : Scientific := ⟨decimal.digits.natAbs, -decimal.scale⟩
  let count := digitCount exact.digits
  let hit := (List.range (min 17 count)).findSome? fun kept =>
    onGrid? tie rank exact (count - (kept + 1))
  (hit.getD exact).trimmed

end RecordFilter.Double
