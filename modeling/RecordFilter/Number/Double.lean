import RecordFilter.Number.Decimal

/-! Binary floating-point numbers of 64 bits, as exact numbers of the smallest positive one. -/

namespace RecordFilter

/-- The number of finite magnitudes, zero included. -/
def Double.rankCount : Nat :=
  0x7FF0000000000000

/-- A binary64 number; finite magnitudes are numbered from zero upwards in order of size. -/
inductive Double
  | nan
  | infinite (negative : Bool)
  | finite (negative : Bool) (rank : Fin Double.rankCount)
  deriving DecidableEq, Repr

namespace Double

/-- The number of magnitudes from one power of two to the next. -/
def binade : Nat :=
  0x10000000000000

/-- A magnitude counted in units of the smallest positive one, two to the power of -1074. -/
def units (rank : Nat) : Nat :=
  -- Below the first power of two the units are counted singly; then each binade doubles the step.
  if rank < binade then rank else (binade + rank % binade) * Nat.pow 2 (rank / binade - 1)

/-- The greatest rank whose magnitude is at most a fraction, found from its highest bit down. -/
def rankBelow (scaled denominator : Nat) : Nat → Nat → Nat
  -- The fraction comes already counted in units, so the comparison is one of whole numbers.
  | 0, rank => rank
  | bit + 1, rank =>
    rankBelow scaled denominator bit
      (if units (rank + Nat.pow 2 bit) * denominator ≤ scaled then rank + Nat.pow 2 bit else rank)

/-- The rank nearest to a fraction; a value halfway between two goes to the even one. -/
def nearestRank (numerator denominator : Nat) : Nat :=
  -- Twice the fraction is compared with the sum of its two neighbours.
  let scaled := numerator * Nat.pow 2 1074
  let rank := rankBelow scaled denominator 63 0
  match compare (2 * scaled) ((units rank + units (rank + 1)) * denominator) with
  | .lt => rank
  | .gt => rank + 1
  | .eq => if rank % 2 = 0 then rank else rank + 1

/-- The number of a rank, which is infinite beyond the finite magnitudes. -/
def ofRank (negative : Bool) (rank : Nat) : Double :=
  if within : rank < rankCount then .finite negative ⟨rank, within⟩ else .infinite negative

/-- The number nearest to a fraction of two whole numbers. -/
def ofFraction (negative : Bool) (numerator denominator : Nat) : Double :=
  ofRank negative (nearestRank numerator denominator)

/-- The number nearest to a magnitude written as digits times a power of ten. -/
def ofScientific (negative : Bool) (digits : Nat) (exponent : Int) : Double :=
  -- A number that lies far outside the range is settled without its power of ten.
  let top := Numeral.digitCount digits + exponent
  if digits = 0 ∨ top < -330 then ofRank negative 0
  else if 320 < top then .infinite negative
  else ofFraction negative (digits * Nat.pow 10 exponent.toNat) (Nat.pow 10 (-exponent).toNat)

/-- The number nearest to a whole number. -/
def ofInt (value : Int) : Double :=
  ofFraction (value < 0) value.natAbs 1

/-- A position on the number line, infinities included; both zeros share one. -/
def position? : Double → Option Int
  -- Magnitudes are numbered in order, and the infinities follow the last of them.
  | .nan => none
  | .infinite negative => some (if negative then -rankCount else rankCount)
  | .finite negative rank => some (if negative then -rank.val else rank.val)

/-- Orders two numbers; one that is no number has no place in the order. -/
def compare? (left right : Double) : Option Ordering := do
  return compare (← left.position?) (← right.position?)

/-- The number is neither infinite nor no number at all. -/
def isFinite : Double → Bool
  | .finite _ _ => true
  | _ => false

/-- Takes common factors of two out of a number of units, up to the 1074 that one unit holds. -/
def halve : Nat → Nat → Nat × Nat
  -- The remaining power of two is what the decimal scale will have to absorb.
  | units, 0 => (units, 0)
  | units, power + 1 => if units % 2 = 0 then halve (units / 2) power else (units, power + 1)

/-- The exact decimal of a magnitude, with the least scale that is not negative. -/
def exactMagnitude (rank : Nat) : Decimal :=
  -- A half is five tenths, so each remaining factor of two becomes one place of five.
  let (odd, power) := halve (units rank) 1074
  ⟨Int.ofNat (odd * Nat.pow 5 power), power⟩

/-- The exact decimal of a finite number; zero has the scale zero. -/
def toDecimal? : Double → Option Decimal
  | .finite negative rank =>
    let magnitude := exactMagnitude rank.val
    some ⟨if negative then -magnitude.digits else magnitude.digits, magnitude.scale⟩
  | _ => none

end Double

end RecordFilter
