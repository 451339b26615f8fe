import RecordFilter.Number.Double

/-! Whole numbers that are scaled by powers of ten in binary64 steps, each of which rounds by itself. -/

namespace RecordFilter.Double

/-- The rank nearest to the product of two magnitudes. -/
def product (left right : Nat) : Nat :=
  -- Both are counted in units of two to the power of -1074.
  nearestRank (units left * units right) (Nat.pow 2 (2 * 1074))

/-- The rank nearest to the quotient of two magnitudes. -/
def quotient (left right : Nat) : Nat :=
  nearestRank (units left) (units right)

/-- The greatest exponent of a power of ten that is near to a finite number. -/
def powerLimit : Nat :=
  308

/-- The rank nearest to a power of ten. -/
def power (exponent : Nat) : Nat :=
  nearestRank (Nat.pow 10 exponent) 1

/-- The rank after a number of divisions by the greatest power of ten. -/
def lowered : Nat → Nat → Nat
  -- What has become zero stays zero.
  | 0, rank => rank
  | rounds + 1, rank => if rank = 0 then 0 else lowered rounds (quotient rank (power powerLimit))

/-- The rank of a magnitude that is divided by a power of ten, in steps that exist as powers. -/
def divided (rank exponent : Nat) : Nat :=
  -- The exponent that is left for the last step is within the limit.
  let rounds := (exponent - 1) / powerLimit
  quotient (lowered rounds rank) (power (exponent - rounds * powerLimit))

/-- A whole number times a power of ten, unless it is too large or the power is. -/
def scaled? (negative : Bool) (significand : Nat) : Int → Option Double
  -- Only the whole number, the power and their combination are rounded, one after another.
  | .ofNat exponent =>
    let rank := nearestRank significand 1
    if rank = 0 then some (ofRank negative 0)
    else if powerLimit < exponent then none
    else
      let number := ofRank negative (product rank (power exponent))
      if number.isFinite then some number else none
  | .negSucc exponent =>
    some (ofRank negative (divided (nearestRank significand 1) (exponent + 1)))

end RecordFilter.Double
