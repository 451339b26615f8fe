/-! Finding one text inside another, and cutting a text at a separator. -/

namespace RecordFilter.Text

/-- The sought characters stand somewhere in a row. -/
def occurs (sought : List Char) : List Char → Bool
  -- Every place is a suffix of the text, the empty one included.
  | [] => sought.isEmpty
  | char :: rest => sought.isPrefixOf (char :: rest) || occurs sought rest

/-- The text begins with the sought one. -/
def startsWith (text sought : String) : Bool :=
  sought.toList.isPrefixOf text.toList

/-- The text ends with the sought one. -/
def endsWith (text sought : String) : Bool :=
  sought.toList.isSuffixOf text.toList

/-- The text holds the sought one as a run of its characters. -/
def contains (text sought : String) : Bool :=
  occurs sought.toList text.toList

/-- The piece before the first separator, and the pieces after it. -/
def firstPiece (separator : Char) : List Char → List Char × List (List Char)
  -- A separator closes the piece before it, which is still empty here.
  | [] => ([], [])
  | char :: rest =>
    let (first, others) := firstPiece separator rest
    if char = separator then ([], first :: others) else (char :: first, others)

/-- The pieces of a text between separators; there is one more of them than of separators. -/
def pieces (separator : Char) (chars : List Char) : List (List Char) :=
  (firstPiece separator chars).1 :: (firstPiece separator chars).2

/-- Cuts a text at the first place where some characters stand in a row, or finds none. -/
def cut? (sought : List Char) : List Char → Option (List Char × List Char)
  | [] => none
  | char :: rest =>
    if sought.isPrefixOf (char :: rest) then some ([], (char :: rest).drop sought.length)
    else (cut? sought rest).map fun (before, after) => (char :: before, after)

/-- The texts one after another with a separator between each two. -/
def joined (separator : String) (texts : List String) : String :=
  separator.intercalate texts

/-- Characters occur in others exactly where they are a run of them. -/
theorem occurs_iff {sought chars : List Char} :
    occurs sought chars = true ↔ sought <:+: chars := by
  -- A run starts at the first character or lies in the rest.
  induction chars with
  | nil => simp [occurs]
  | cons char rest ih => simp [occurs, ih, List.infix_cons_iff]

/-- What stands before and after a cut makes up the text together with what was sought. -/
theorem cut?_eq_some {sought chars before after : List Char}
    (found : cut? sought chars = some (before, after)) : chars = before ++ sought ++ after := by
  induction chars generalizing before with
  | nil => simp [cut?] at found
  | cons char rest ih =>
    rw [cut?] at found
    split at found
    · rename_i start
      -- The sought characters begin here, and the rest is what follows them.
      obtain ⟨tail, whole⟩ := List.isPrefixOf_iff_prefix.1 start
      simp only [Option.some.injEq, Prod.mk.injEq] at found
      obtain ⟨rfl, rfl⟩ := found
      simp [← whole]
    · simp only [Option.map_eq_some_iff, Prod.exists, Prod.mk.injEq] at found
      obtain ⟨inner, _, same, rfl, rfl⟩ := found
      simp [ih same]

/-- The pieces with the separator between each two make up the text. -/
theorem intercalate_pieces (separator : Char) (chars : List Char) :
    [separator].intercalate (pieces separator chars) = chars := by
  induction chars with
  | nil => rfl
  | cons char rest ih =>
    simp only [pieces] at ih
    by_cases closes : char = separator
    · -- A new empty piece stands before those of the rest.
      simpa [pieces, firstPiece, closes, List.intercalate] using ih
    · -- The first piece of the rest grows by a character.
      cases others : (firstPiece separator rest).2 with
      | nil => simpa [pieces, firstPiece, closes, others, List.intercalate] using ih
      | cons second more => simpa [pieces, firstPiece, closes, others, List.intercalate] using ih

end RecordFilter.Text
