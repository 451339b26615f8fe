/-! Reasons for a refusal that come from elsewhere, with which messages end. -/

namespace RecordFilter

/-- How the readers of other formats, and the system, word why they refuse something. -/
structure Reasons where
  decimal : (text : String) → String
  date : (text : String) → String
  uuid : (text : String) → String
  pattern : (text : String) → String
  /-- Why a line of records is no JSON. -/
  line : (number : Nat) → String
  /-- Why what a file holds is not what it should hold. -/
  document : (path : String) → String
  /-- Why a file cannot be read. -/
  file : (path : String) → String

/-- Reasons that are not told: a mark stands where a message would give one. -/
def Reasons.untold : Reasons :=
  let mark := "<reason>"
  ⟨fun _ => mark, fun _ => mark, fun _ => mark, fun _ => mark, fun _ => mark, fun _ => mark,
    fun _ => mark⟩

end RecordFilter
