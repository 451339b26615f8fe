import RecordFilter.Pattern.Basic
import RecordFilter.Text.Blank
import RecordFilter.Text.Case

/-! The settings under which filters are compiled. -/

namespace RecordFilter

/-- What becomes of a group without children: the identity of its combinator, or an error. -/
inductive EmptyGroups
  | identity
  | reject
  deriving DecidableEq, Repr

/-- A word that names no treatment of empty groups. -/
structure UnknownPolicy where
  word : String
  deriving DecidableEq, Repr

/-- The wording of an unknown policy. -/
def UnknownPolicy.message (unknown : UnknownPolicy) : String :=
  "Unknown empty group policy '" ++ unknown.word ++ "', expected 'identity' or 'reject'"

namespace EmptyGroups

/-- The word for a treatment of empty groups. -/
def name : EmptyGroups → String
  | .identity => "identity"
  | .reject => "reject"

/-- The treatment of exactly a word. -/
def ofName? : String → Option EmptyGroups
  | "identity" => some .identity
  | "reject" => some .reject
  | _ => none

/-- The treatment of a word in any ASCII case, with blanks at its ends passed over. -/
def read (text : String) : Except UnknownPolicy EmptyGroups :=
  -- An unknown word is reported in small letters and without the blanks.
  let word := Text.lowered (Text.trim text)
  match ofName? word with
  | some policy => .ok policy
  | none => .error ⟨word⟩

end EmptyGroups

/-- The treatment of empty groups, and the greatest size of a pattern in bytes. -/
structure Settings where
  emptyGroups : EmptyGroups
  patternLimit : UInt64
  deriving DecidableEq, Repr

/-- The settings where none are made. -/
def Settings.standard : Settings :=
  ⟨.identity, UInt64.ofNat Pattern.defaultLimit⟩

end RecordFilter
