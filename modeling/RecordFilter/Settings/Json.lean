import RecordFilter.Json.Member
import RecordFilter.Json.Text
import RecordFilter.Settings.Basic

/-! Settings as JSON, in which every part may be missing. -/

namespace RecordFilter.Settings

open Json (Written fill?)

/-- The members of settings that are known so far. -/
structure Parts where
  emptyGroups : Option EmptyGroups
  patternLimit : Option UInt64

/-- The settings of the members that are there, with the standard ones for the others. -/
def Parts.settings (parts : Parts) : Settings :=
  ⟨parts.emptyGroups.getD standard.emptyGroups, parts.patternLimit.getD standard.patternLimit⟩

/-- The treatment of empty groups that a written value names. -/
def emptyGroupsOf? (room : Nat) (written : Written) : Option EmptyGroups :=
  (written.word? room).bind EmptyGroups.ofName?

/-- The limit that a written value stands for: a whole number of bytes. -/
def limitOf? (written : Written) : Option UInt64 :=
  match written.number? with
  | some (.integer value) => if 0 ≤ value then some (UInt64.ofNat value.toNat) else none
  | _ => none

/-- Takes the members of settings in; other members are passed over. -/
def members? (room : Nat) (parts : Parts) : List (List Nat × Written) → Option Parts
  | [] => some parts
  | (name, content) :: rest =>
    match Json.text? name with
    | some "empty_groups" => do
      let emptyGroups ← fill? parts.emptyGroups (emptyGroupsOf? room content)
      members? room { parts with emptyGroups } rest
    | some "regex_size_limit" => do
      let patternLimit ← fill? parts.patternLimit (limitOf? content)
      members? room { parts with patternLimit } rest
    | some _ => members? room parts rest
    | none => none

/-- The settings that a written value stands for: an object, or an array in the order of the members. -/
def ofWritten? (room : Nat) : Written → Option Settings
  | .object members => (members? (room - 1) ⟨none, none⟩ members).map Parts.settings
  | .array [] => some standard
  | .array [groups] => do
    return Parts.settings ⟨some (← emptyGroupsOf? (room - 1) groups), none⟩
  | .array [groups, limit] => do
    return ⟨← emptyGroupsOf? (room - 1) groups, ← limitOf? limit⟩
  | _ => none

/-- Reads settings from JSON text. -/
def read? (text : String) : Option Settings :=
  (Written.read? text).bind (ofWritten? Json.nestingLimit)

/-- The JSON value of settings. -/
def toJson (settings : Settings) : Json :=
  .object [("empty_groups", .string settings.emptyGroups.name),
    ("regex_size_limit", .number (.integer settings.patternLimit.toNat))]

end RecordFilter.Settings
