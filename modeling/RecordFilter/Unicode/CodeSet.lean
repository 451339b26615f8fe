import RecordFilter.Numeral.Digits
import RecordFilter.Text.Blank

/-! Sets of character codes as ranges in order. -/

namespace RecordFilter.Unicode

/-- A set of codes: ranges in increasing order, of which no two overlap or touch. -/
abbrev CodeSet : Type :=
  List (Nat × Nat)

/-- The greatest code of a character. -/
def lastCode : Nat :=
  0x10FFFF

namespace CodeSet

/-- The code lies in one of the ranges. -/
def contains (set : CodeSet) (code : Nat) : Bool :=
  set.any fun (first, last) => first ≤ code && code ≤ last

/-- Joins ranges that overlap or touch, in a list ordered by first codes. -/
def merged : CodeSet → CodeSet
  -- The first range absorbs the second one and is then compared with the third.
  | [] => []
  | [range] => [range]
  | (first, last) :: (next, stop) :: rest =>
    if next ≤ last + 1 then merged ((first, max last stop) :: rest)
    else (first, last) :: merged ((next, stop) :: rest)
termination_by ranges => ranges.length

/-- The set of ranges in any order. -/
def ofRanges (ranges : List (Nat × Nat)) : CodeSet :=
  merged (ranges.mergeSort fun left right => left.1 ≤ right.1)

/-- The codes of either set. -/
def union (left right : CodeSet) : CodeSet :=
  ofRanges (left ++ right)

/-- The codes from a first one on, up to a greatest, that lie in none of the ranges. -/
def gaps (greatest : Nat) : Nat → CodeSet → CodeSet
  | start, [] => if start ≤ greatest then [(start, greatest)] else []
  | start, (first, last) :: rest =>
    if start < first then (start, first - 1) :: gaps greatest (last + 1) rest
    else gaps greatest (last + 1) rest

/-- The codes up to a greatest one that are not in the set. -/
def complement (greatest : Nat) (set : CodeSet) : CodeSet :=
  gaps greatest 0 set

/-- The codes of both sets. -/
def intersection (left right : CodeSet) : CodeSet :=
  -- A code is in both sets exactly if neither set lacks it.
  complement lastCode (union (complement lastCode left) (complement lastCode right))

/-- The codes of the first set that are not in the second. -/
def difference (left right : CodeSet) : CodeSet :=
  intersection left (complement lastCode right)

/-- The codes of exactly one of two sets. -/
def symmetricDifference (left right : CodeSet) : CodeSet :=
  difference (union left right) (intersection left right)

/-- The same characters without the codes of surrogates at either end of a range. -/
def scalars (set : CodeSet) : CodeSet :=
  set.filterMap fun (first, last) =>
    let first := if 0xD800 ≤ first ∧ first ≤ 0xDFFF then 0xE000 else first
    let last := if 0xD800 ≤ last ∧ last ≤ 0xDFFF then 0xD7FF else last
    if first ≤ last then some (first, last) else none

/-- The ranges of run lengths, which alternate between codes outside the set and codes in it. -/
def ofLengths : Nat → List Nat → CodeSet
  | start, outside :: inside :: rest =>
    (start + outside, start + outside + inside - 1) :: ofLengths (start + outside + inside) rest
  | _, _ => []

/-- The hexadecimal numbers of a text, of which blanks separate each two. -/
def hexNumbers (current : Option Nat) : List Char → List Nat
  | [] => current.toList
  | char :: rest =>
    match Numeral.hexDigit? char with
    | some digit => hexNumbers (some (current.getD 0 * 16 + digit)) rest
    | none => current.toList ++ hexNumbers none rest

/-- The set of a table entry, whose run lengths are written in hexadecimal digits. -/
def ofTable (lengths : String) : CodeSet :=
  ofLengths 0 (hexNumbers none lengths.toList)

end CodeSet

end RecordFilter.Unicode
