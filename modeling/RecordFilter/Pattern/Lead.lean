import RecordFilter.Pattern.Regex

/-! The texts with which a match of a regular expression begins, where they are few. -/

namespace RecordFilter

/-- The bytes with which a match begins, and whether they are the whole match. -/
structure Lead where
  bytes : List UInt8
  whole : Bool
  deriving DecidableEq, Repr

/-- The leads of an expression in order of preference, unless a match may begin with anything. -/
abbrev Leads : Type :=
  Option (List Lead)

namespace Lead

/-- The same lead as no more than a beginning. -/
def partly (lead : Lead) : Lead :=
  { lead with whole := false }

/-- At most a number of the first bytes of a lead. -/
def cut (count : Nat) (lead : Lead) : Lead :=
  if lead.bytes.length ≤ count then lead else ⟨lead.bytes.take count, false⟩

/-- A lead followed by another one. -/
def append (lead next : Lead) : Lead :=
  ⟨lead.bytes ++ next.bytes, next.whole⟩

end Lead

namespace Leads

/-- The greatest number of characters in a set that counts as few. -/
def setLimit : Nat :=
  10

/-- The greatest number of repetitions that are followed. -/
def repetitionLimit : Nat :=
  10

/-- The greatest number of bytes of a lead. -/
def byteLimit : Nat :=
  100

/-- The greatest number of leads. -/
def countLimit : Nat :=
  250

/-- The lead of what takes no character. -/
def nothing : Leads :=
  some [⟨[], true⟩]

/-- Every lead is a whole match. -/
def allWhole : Leads → Bool
  | some leads => leads.all Lead.whole
  | none => false

/-- No lead is a whole match. -/
def nonWhole : Leads → Bool
  | some leads => leads.all fun lead => !lead.whole
  | none => true

/-- The leads as no more than beginnings. -/
def partly (leads : Leads) : Leads :=
  leads.map fun leads => leads.map Lead.partly

/-- At most a number of the first bytes of each lead. -/
def cut (count : Nat) (leads : Leads) : Leads :=
  leads.map fun leads => leads.map (Lead.cut count)

/-- Joins neighbours of equal bytes, given backwards what comes before a list of leads. -/
def mergedOnto : List Lead → List Lead → List Lead
  | before, [] => before.reverse
  | [], lead :: rest => mergedOnto [lead] rest
  | last :: before, lead :: rest =>
    if last.bytes = lead.bytes then
      mergedOnto (⟨last.bytes, last.whole && lead.whole⟩ :: before) rest
    else mergedOnto (lead :: last :: before) rest

/-- The leads with neighbours of equal bytes joined. -/
def merged (leads : List Lead) : List Lead :=
  mergedOnto [] leads

/-- The fewest bytes of a lead. -/
def fewestBytes? : Leads → Option Nat
  | some leads => (leads.map fun lead => lead.bytes.length).min?
  | none => none

/-- The number of leads that two of them have if each is combined by an operation on their numbers. -/
def tooMany (combine : Nat → Nat → Nat) : Leads → Leads → Bool
  | some first, some second => countLimit < combine first.length second.length
  | _, _ => false

/-- The leads of one expression after another. -/
def after (first second : Leads) : Leads :=
  -- Only leads that are whole matches go on; where they are too many they are given up.
  let second := if tooMany (· * ·) first second then none else second
  cut byteLimit <|
    match first, second with
    | some leads, some nexts =>
      some (merged (leads.flatMap fun lead =>
        if lead.whole then nexts.map lead.append else [lead]))
    | none, _ => none
    | some leads, none =>
      if fewestBytes? (some leads) = some 0 then none else partly (some leads)

/-- The leads of a choice between two expressions. -/
def either (first second : Leads) : Leads :=
  -- Too many leads are shortened first, and given up if that does not make them fewer.
  let join (first second : Leads) : Leads := do return merged ((← first) ++ (← second))
  if tooMany (· + ·) first second then
    let first := (cut 4 first).map merged
    let second := (cut 4 second).map merged
    if tooMany (· + ·) first second then none else join first second
  else join first second

/-- The leads of one of the characters of a set. -/
def ofSet (set : Unicode.CodeSet) : Leads :=
  if setLimit < (set.map fun (first, last) => last + 1 - first).foldl (· + ·) 0 then none
  else
    some ((set.flatMap fun (first, last) => List.range' first (last + 1 - first)).map fun code =>
      ⟨String.utf8EncodeChar (Char.ofNat code), true⟩)

/-- The leads of a number of repetitions of an expression with the given leads. -/
def times (leads : Leads) : Nat → Leads → Leads
  | 0, before => before
  | rounds + 1, before =>
    if nonWhole before then before else times leads rounds (after before leads)

/-- The leads of repetitions of an expression with the given leads. -/
def repeated (greedy : Bool) (least : Nat) (most : Option Nat) (leads : Leads) : Leads :=
  if least = 0 then
    let leads := if most = some 1 then leads else partly leads
    if greedy then either leads nothing else either nothing leads
  else
    let found := times leads (min least repetitionLimit) nothing
    if most = some least ∧ least ≤ repetitionLimit then found else partly found

end Leads

namespace Regex

mutual
/-- The leads of an expression. -/
def leads : Regex → Leads
  | .empty => Leads.nothing
  | .text chars => Leads.cut Leads.byteLimit (some [⟨chars.flatMap String.utf8EncodeChar, true⟩])
  | .oneOf set => Leads.ofSet set
  | .look _ => Leads.nothing
  | .repeated greedy least most body => Leads.repeated greedy least most body.leads
  | .captured body => body.leads
  | .inOrder parts => leadsInOrder parts Leads.nothing
  | .choice branches => leadsOfChoice branches (some [])
/-- The leads of expressions one after another, after given leads. -/
def leadsInOrder : List Regex → Leads → Leads
  | [], found => found
  | part :: rest, found =>
    if Leads.nonWhole found then found else leadsInOrder rest (Leads.after found part.leads)
/-- The leads of a choice between expressions, beside given leads. -/
def leadsOfChoice : List Regex → Leads → Leads
  | [], found => found
  | branch :: rest, found =>
    if found.isNone then found else leadsOfChoice rest (Leads.either found branch.leads)
end

end Regex

end RecordFilter
