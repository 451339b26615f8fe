import RecordFilter.Unicode.CodeSet

/-! The bytes that encode the characters of a set, as ranges of bytes in sequence. -/

namespace RecordFilter.Unicode

/-- A range of bytes from a first to a last one. -/
abbrev ByteRange : Type :=
  Nat × Nat

namespace Encoding

/-- The codes whose encodings are equally long; the codes of surrogates have none. -/
def blocks : CodeSet :=
  [(0x00, 0x7F), (0x80, 0x7FF), (0x800, 0xD7FF), (0xE000, 0xFFFF), (0x10000, 0x10FFFF)]

/-- The parts of a range of codes that lie in the same block. -/
def withinBlocks (range : Nat × Nat) : CodeSet :=
  blocks.filterMap fun (first, last) =>
    let part := (max first range.1, min last range.2)
    if part.1 ≤ part.2 then some part else none

/-- The parts of a range of codes that lie in one group of codes of a size, or are made up of such groups. -/
def withinGroups (size : Nat) (range : Nat × Nat) : CodeSet :=
  -- Only the first group and the last one may be incomplete.
  let (first, last) := range
  if first / size = last / size then [(first, last)]
  else
    let whole := if first % size = 0 then first else (first / size + 1) * size
    let rest := if last % size = size - 1 then last + 1 else last / size * size
    (if first < whole then [(first, whole - 1)] else []) ++
      (if whole < rest then [(whole, rest - 1)] else []) ++
      (if rest ≤ last then [(rest, last)] else [])

/-- The bytes that encode a code. -/
def bytes (code : Nat) : List Nat :=
  -- All bytes but the first one hold six bits each.
  if code < 0x80 then [code]
  else if code < 0x800 then [0xC0 + code / 64, 0x80 + code % 64]
  else if code < 0x10000 then [0xE0 + code / 4096, 0x80 + code / 64 % 64, 0x80 + code % 64]
  else
    [0xF0 + code / 262144, 0x80 + code / 4096 % 64, 0x80 + code / 64 % 64, 0x80 + code % 64]

/-- The sequences of byte ranges that encode a range of codes, in order. -/
def ofRange (range : Nat × Nat) : List (List ByteRange) :=
  -- The range is divided until every byte of an encoding may be chosen by itself.
  ((((withinBlocks range).flatMap (withinGroups 64)).flatMap (withinGroups 4096)).flatMap
    (withinGroups 262144)).map fun (first, last) => (bytes first).zip (bytes last)

/-- The sequences of byte ranges that encode the characters of a set, in order. -/
def ofSet (set : CodeSet) : List (List ByteRange) :=
  set.flatMap ofRange

end Encoding

end RecordFilter.Unicode
