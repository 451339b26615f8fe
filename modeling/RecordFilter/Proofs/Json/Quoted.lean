import RecordFilter.Json.Text
import RecordFilter.Json.Written

/-! Strings in quotes: what is escaped in them is read back, and so is every other character. -/

namespace RecordFilter.Json

/-- The two digits of a control character are read after the zeros in front of them. -/
theorem ofHexDigits?_hexPair {code : Nat} (control : code < 0x20) :
    Numeral.ofHexDigits? (['0', '0'] ++ hexPair code) = some code := by
  -- There are few control characters, and each of them is computed.
  have every : ∀ code < 0x20, Numeral.ofHexDigits? (['0', '0'] ++ hexPair code) = some code := by
    decide
  exact every code control

/-- An escape of one letter is read as the character that the letter stands for. -/
theorem stringCodes?_letter {letter char : Char} (stands : escaped? letter = some char)
    (rest : List Char) :
    stringCodes? ('\\' :: letter :: rest) =
      (stringCodes? rest).map fun (codes, after) => (char.toNat :: codes, after) := by
  -- The letter before four digits is none of those letters.
  have other : letter ≠ 'u' := by
    rintro rfl
    cases stands
  rw [stringCodes?, stands]
  intro a b c d after same
  exact absurd same other

/-- A character that stands for itself is read as itself. -/
theorem stringCodes?_plain {char : Char} (quote : char ≠ '"') (backslash : char ≠ '\\')
    (control : ¬char.toNat < 0x20) (rest : List Char) :
    stringCodes? (char :: rest) =
      (stringCodes? rest).map fun (codes, after) => (char.toNat :: codes, after) := by
  -- The character is none of those with which another case begins.
  rw [stringCodes?, if_neg control]
  · exact quote
  · exact fun a b c d after same => absurd same backslash
  · exact fun letter after same => absurd same backslash

/-- Every character is read back from the form that it has in a string. -/
theorem stringCodes?_escape (char : Char) (rest : List Char) :
    stringCodes? (escape char ++ rest) =
      (stringCodes? rest).map fun (codes, after) => (char.toNat :: codes, after) := by
  -- Seven characters have letters of their own, controls have a code, and others stay.
  unfold escape
  iterate 7
    split
    · rename_i same
      rw [same]
      exact stringCodes?_letter (by decide) rest
  split
  · rename_i control
    have read := ofHexDigits?_hexPair control
    simp only [hexPair, List.cons_append, List.nil_append] at read ⊢
    rw [stringCodes?, read]
  · rename_i quote backslash _ _ _ _ _ control
    exact stringCodes?_plain quote backslash control rest

/-- The characters of a text are read up to the closing quote. -/
theorem stringCodes?_flatMap (chars rest : List Char) :
    stringCodes? (chars.flatMap escape ++ '"' :: rest) = some (chars.map Char.toNat, rest) := by
  -- Each character is taken off with its escape, up to the closing quote.
  induction chars with
  | nil => rfl
  | cons char chars ih =>
    rw [List.flatMap_cons, List.append_assoc, stringCodes?_escape, ih]
    rfl

/-- No character is a surrogate, so each code stands for a character by itself. -/
theorem chars?_toNat (chars : List Char) : chars? (chars.map Char.toNat) = some chars := by
  -- Surrogates are taken in pairs, a case that the code of a character never falls into.
  have scalar (char : Char) : char.toNat < 0xD800 ∨ 0xE000 ≤ char.toNat := by
    rcases char.valid with low | ⟨high, -⟩
    · exact .inl low
    · exact .inr high
  induction chars with
  | nil => rfl
  | cons char rest ih =>
    have here := scalar char
    cases rest with
    | nil =>
      rw [List.map_cons, List.map_nil, chars?, if_neg (by omega), Char.ofNat_toNat]
    | cons next rest =>
      rw [List.map_cons, List.map_cons] at *
      rw [chars?, if_neg (by omega), if_neg (by omega), ih, Char.ofNat_toNat]
      rfl

/-- The codes of the characters of a text are that text. -/
@[simp] theorem text?_toNat (text : String) : text? (text.toList.map Char.toNat) = some text := by
  rw [text?, chars?_toNat, Option.map_some, String.ofList_toList]

/-- A string in quotes is one token, whatever follows it. -/
theorem token?_quoted (text : String) (rest : List Char) :
    token? (quoted text ++ rest) = some (.string (text.toList.map Char.toNat), rest) := by
  -- A quote begins the token, and the next one that is not escaped ends it.
  rw [quoted, List.append_assoc, List.cons_append, token?, List.singleton_append,
    stringCodes?_flatMap]
  rfl

end RecordFilter.Json
