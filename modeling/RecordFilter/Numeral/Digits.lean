/-! Decimal and hexadecimal digits, and numbers written with them. -/

namespace RecordFilter.Numeral

/-- The value of a decimal digit. -/
def digit? (char : Char) : Option Nat :=
  -- Only the ten ASCII digits count; other scripts have digits of their own.
  if '0' ≤ char ∧ char ≤ '9' then some (char.toNat - '0'.toNat) else none

/-- The value of a hexadecimal digit of either case. -/
def hexDigit? (char : Char) : Option Nat :=
  -- Letters continue the decimal digits from ten.
  if '0' ≤ char ∧ char ≤ '9' then some (char.toNat - '0'.toNat)
  else if 'a' ≤ char ∧ char ≤ 'f' then some (char.toNat - 'a'.toNat + 10)
  else if 'A' ≤ char ∧ char ≤ 'F' then some (char.toNat - 'A'.toNat + 10)
  else none

/-- The character is one of the ten decimal digits. -/
def isDigit (char : Char) : Bool :=
  (digit? char).isSome

/-- The number that a run of decimal digits stands for; other characters are passed over. -/
def ofDigits (chars : List Char) : Nat :=
  -- Each digit moves those before it one place up.
  (chars.filterMap digit?).foldl (fun value digit => value * 10 + digit) 0

/-- The number that hexadecimal digits stand for, unless a character is none. -/
def ofHexDigits? (chars : List Char) : Option Nat :=
  -- Each digit moves those before it one place up.
  chars.foldlM (fun value char => (hexDigit? char).map (value * 16 + ·)) 0

/-- The decimal digits of a number, without leading zeros. -/
def digits (value : Nat) : List Char :=
  Nat.toDigits 10 value

/-- The number of decimal digits, which is one for zero. -/
def digitCount (value : Nat) : Nat :=
  (digits value).length

/-- The decimal digits of a number, with zeros in front up to a width. -/
def padded (width value : Nat) : List Char :=
  -- A number wider than the width is written in full.
  List.replicate (width - digitCount value) '0' ++ digits value

end RecordFilter.Numeral
