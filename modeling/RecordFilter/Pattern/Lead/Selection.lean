import RecordFilter.Pattern.Lead

/-! The leads that are worth searching a text for, by how common their bytes are. -/

namespace RecordFilter.Leads

/-- How common each ASCII character is in texts, from the rarest to the most common one. -/
def asciiRanks : List Nat := [
  55, 52, 51, 50, 49, 48, 47, 46, 45, 103, 242, 66, 67, 229, 44, 43, 42, 41, 40, 39, 38, 37, 36,
  35, 34, 33, 56, 32, 31, 30, 29, 28, 255, 148, 164, 149, 136, 160, 155, 173, 221, 222, 134, 122,
  232, 202, 215, 224, 208, 220, 204, 187, 183, 179, 177, 168, 178, 200, 226, 195, 154, 184, 174,
  126, 120, 191, 157, 194, 170, 189, 162, 161, 150, 193, 142, 137, 171, 176, 185, 167, 186, 112,
  175, 192, 188, 156, 140, 143, 123, 133, 128, 147, 138, 146, 114, 223, 151, 249, 216, 238, 236,
  253, 227, 218, 230, 247, 135, 180, 241, 233, 246, 244, 231, 139, 245, 243, 251, 235, 201, 196,
  240, 214, 152, 182, 205, 181, 127, 27]

/-- How common each byte is that continues the encoding of a character. -/
def continuationRanks : List Nat := [
  212, 211, 210, 213, 228, 197, 169, 159, 131, 172, 105, 80, 98, 96, 97, 81, 207, 145, 116, 115,
  144, 130, 153, 121, 107, 132, 109, 110, 124, 111, 82, 108, 118, 141, 113, 129, 119, 125, 165,
  117, 92, 106, 83, 72, 99, 93, 65, 79, 166, 237, 163, 199, 190, 225, 209, 203, 198, 217, 219,
  206, 234, 248, 158, 239]

/-- How common a byte is; those that begin longer encodings are taken to be the most common ones. -/
def rank (byte : UInt8) : Nat :=
  ((asciiRanks ++ continuationRanks)[byte.toNat]?).getD 255

/-- The leads without those that begin with an earlier one, given those that are kept, backwards. -/
def distinctAfter : List Lead → List Lead → List Lead
  | kept, [] => kept.reverse
  | kept, lead :: rest =>
    if kept.any fun earlier => earlier.bytes.isPrefixOf lead.bytes then distinctAfter kept rest
    else distinctAfter (lead :: kept) rest

/-- The leads without those that begin with an earlier one, which would be found first. -/
def distinct (leads : List Lead) : List Lead :=
  distinctAfter [] leads

/-- The bytes that two texts begin with. -/
def commonBytes : List UInt8 → List UInt8 → List UInt8
  | byte :: rest, other :: others => if byte = other then byte :: commonBytes rest others else []
  | _, _ => []

/-- The bytes that all leads begin with. -/
def commonStart : List Lead → List UInt8
  | [] => []
  | first :: rest => (rest.map Lead.bytes).foldl commonBytes first.bytes

/-- The lead is so short and common that searching for it is of no use. -/
def isUseless (lead : Lead) : Bool :=
  match lead.bytes with
  | [] => true
  | [byte] => 250 ≤ rank byte
  | _ => false

/-- Leads cut more and more for as long as there are too many of them. -/
def shortened : List (Nat × Nat) → List Lead → List Lead
  | [], leads => leads
  | (count, enough) :: attempts, leads =>
    if leads.length ≤ enough then leads
    else shortened attempts (distinct (leads.map (Lead.cut count)))

/-- To how many bytes leads are cut, and how many leads are few enough. -/
def attempts : List (Nat × Nat) :=
  [(5, 10), (4, 10), (3, 64), (2, 64), (1, 10)]

/-- The leads that are searched for, or none if searching for them is of no use. -/
def selectFrom (leads : List Lead) : Leads :=
  -- Whole matches are kept as they are unless cutting them leaves few leads that are long.
  let kept := distinct leads
  let start := commonStart kept
  if leads.any fun lead => lead.bytes.isEmpty then none
  else if 1 < leads.length ∧ 1 ≤ start.length ∧ start.length ≤ 3 ∧
      (start.head?.map rank).any (· < 200) then
    some (merged (kept.map (Lead.cut 1)))
  else
    let quick := kept.all Lead.whole && kept.length ≤ 16
    let kept :=
      if 4 < start.length ∨ (1 < start.length ∧ ¬ quick) then
        merged (kept.map (Lead.cut start.length))
      else kept
    let fewer := shortened attempts kept
    let tried : Leads := if fewer.any isUseless then none else some fewer
    if kept.all Lead.whole ∧
        (tried.isNone ∨ (fewestBytes? tried).all (· ≤ 2) ∨ 64 < fewer.length) then
      some kept
    else tried

/-- The leads that are searched for, or none if searching for them is of no use. -/
def selected (leads : Leads) : Leads :=
  leads.bind fun leads => selectFrom (merged leads)

end RecordFilter.Leads
