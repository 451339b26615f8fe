import RecordFilter.Text.Case
import RecordFilter.Proofs.Filter.Path

/-! Letter case in paths: texts that agree are read as the same segments, but for the case of their names. -/

namespace RecordFilter

namespace Text

/-- The codes of ASCII letters. -/
theorem toNat_of_isAlpha {char : Char} (letter : char.isAlpha = true) :
    65 ≤ char.toNat ∧ char.toNat ≤ 90 ∨ 97 ≤ char.toNat ∧ char.toNat ≤ 122 := by
  -- A letter is a capital or a small one, between the first and the last of its alphabet.
  rcases Bool.or_eq_true_iff.1 letter with capital | small
  · obtain ⟨least, greatest⟩ := of_decide_eq_true capital
    exact .inl ⟨UInt32.le_iff_toNat_le.1 least, UInt32.le_iff_toNat_le.1 greatest⟩
  · obtain ⟨least, greatest⟩ := Bool.and_eq_true_iff.1 small
    exact .inr ⟨UInt32.le_iff_toNat_le.1 (of_decide_eq_true least),
      UInt32.le_iff_toNat_le.1 (of_decide_eq_true greatest)⟩

/-- Only capitals have small forms of their own. -/
theorem toLower_of_not_isUpper {char : Char} (plain : ¬ char.isUpper = true) :
    char.toLower = char :=
  dif_neg fun capital => plain (decide_eq_true capital)

/-- Only letters have small forms of their own. -/
theorem toLower_of_not_isAlpha {char : Char} (plain : ¬ char.isAlpha = true) :
    char.toLower = char :=
  toLower_of_not_isUpper fun capital => plain (Bool.or_eq_true_iff.2 (.inl capital))

/-- The small form of a letter is a letter. -/
theorem isAlpha_toLower {char : Char} (letter : char.isAlpha = true) :
    char.toLower.isAlpha = true := by
  by_cases capital : char.isUpper = true
  · -- Small letters stand as far behind the capitals as the one alphabet behind the other.
    have within := of_decide_eq_true capital
    have least : 65 ≤ char.val.toNat := UInt32.le_iff_toNat_le.1 within.1
    have greatest : char.val.toNat ≤ 90 := UInt32.le_iff_toNat_le.1 within.2
    have moved : char.toLower.val = char.val + 32 := congrArg Char.val (dif_pos within)
    have code : char.toLower.val.toNat = char.val.toNat + 32 := by
      rw [moved, UInt32.toNat_add]
      show (char.val.toNat + 32) % 4294967296 = char.val.toNat + 32
      omega
    have after : 'a'.val ≤ char.toLower.val := by
      rw [UInt32.le_iff_toNat_le, code]
      show 97 ≤ _
      omega
    have before : char.toLower.val ≤ 'z'.val := by
      rw [UInt32.le_iff_toNat_le, code]
      show _ ≤ 122
      omega
    have small : char.toLower.isLower = true :=
      Bool.and_eq_true_iff.2 ⟨decide_eq_true after, decide_eq_true before⟩
    exact Bool.or_eq_true_iff.2 (.inr small)
  · rwa [toLower_of_not_isUpper capital]

/-- A test that all ASCII letters pass, or all of them fail, does not look at the case of a character. -/
theorem test_toLower {test : Char → Bool} {result : Bool}
    (letters : ∀ char, char.isAlpha = true → test char = result) :
    test ∘ Char.toLower = test := by
  -- A letter stays a letter, and what is no letter stays as it is.
  funext char
  rw [Function.comp_apply]
  by_cases letter : char.isAlpha = true
  · rw [letters _ letter, letters _ (isAlpha_toLower letter)]
  · rw [toLower_of_not_isAlpha letter]

/-- Texts agree when they are the same in small letters. -/
theorem agree_iff {text other : String} : agree text other = true ↔ lowered text = lowered other := by
  rw [agree, beq_iff_eq, lowered, lowered, String.ofList_inj]

/-- The small letters of characters put together are those of each. -/
theorem lowered_ofList (chars : List Char) :
    lowered (String.ofList chars) = String.ofList (chars.map Char.toLower) := by
  rw [lowered, String.toList_ofList]

/-- A character that is no letter is made by making small only from itself. -/
theorem toLower_eq_iff {mark : Char} (plain : mark.isAlpha = false) (char : Char) :
    char.toLower = mark ↔ char = mark := by
  -- Whether a character is the mark is a test that all letters fail.
  have apart : ∀ letter : Char, letter.isAlpha = true → (letter == mark) = false := by
    intro letter alpha
    rw [beq_eq_false_iff_ne]
    rintro rfl
    rw [plain] at alpha
    cases alpha
  have same : (char.toLower == mark) = (char == mark) := congrFun (test_toLower apart) char
  rw [← beq_iff_eq, same, beq_iff_eq]

/-- Small letters do not change where a separator that is no letter cuts. -/
theorem pieces_toLower {separator : Char} (plain : separator.isAlpha = false) (chars : List Char) :
    pieces separator (chars.map Char.toLower) = (pieces separator chars).map (List.map Char.toLower) := by
  -- The induction cuts one character more, and the rest is cut at the same places.
  induction chars with
  | nil => rfl
  | cons char rest ih =>
    obtain ⟨first, others⟩ := List.cons.inj ih
    simp only [pieces, List.map_cons, firstPiece, first, others, toLower_eq_iff plain]
    split <;> rfl

end Text

/-- No letter is a decimal digit. -/
theorem Numeral.isDigit_of_isAlpha {char : Char} (letter : char.isAlpha = true) :
    isDigit char = false := by
  -- The codes of letters come after those of digits.
  have codes := Text.toNat_of_isAlpha letter
  have range : ¬ ('0' ≤ char ∧ char ≤ '9') := by
    intro digit
    have small : char.toNat ≤ '9'.toNat := UInt32.le_iff_toNat_le.1 digit.2
    have nine : '9'.toNat = 57 := rfl
    omega
  rw [isDigit, digit?, if_neg range]
  rfl

namespace Segment

open Text (test_toLower toLower_eq_iff toNat_of_isAlpha)

/-- The segment with its name in small letters. -/
def lowered (segment : Segment) : Segment :=
  { segment with name := Text.lowered segment.name }

/-- ASCII letters are characters of words. -/
theorem isWord_of_isAlpha {char : Char} (letter : char.isAlpha = true) :
    Unicode.isWord char = true := by
  -- Letters have codes of ASCII, where words are made of letters, digits and underscores.
  have codes := toNat_of_isAlpha letter
  have ascii : char.toNat < 0x80 := by omega
  simp [Unicode.isWord, ascii, Unicode.isAsciiWord, Char.isAlphanum, letter]

/-- Small letters are as good in a word as capitals. -/
theorem isWord_toLower : Unicode.isWord ∘ Char.toLower = Unicode.isWord :=
  test_toLower fun _ letter => isWord_of_isAlpha letter

/-- In small letters characters still end with a closing bracket, and have none before it. -/
theorem closes_toLower (chars : List Char) :
    ((chars.map Char.toLower).getLast? = some ']' ∧
        ¬ (chars.map Char.toLower).dropLast.contains ']') ↔
      chars.getLast? = some ']' ∧ ¬ chars.dropLast.contains ']' := by
  -- Brackets are no letters, so they stay where they are and no other ones come in.
  simp [List.getLast?_map, ← List.map_dropLast, toLower_eq_iff]

/-- In small letters a segment has the same shape. -/
theorem shape?_toLower (chars : List Char) :
    shape? (chars.map Char.toLower) =
      (shape? chars).map fun (name, index) =>
        (name.map Char.toLower, index.map (List.map Char.toLower)) := by
  have starts : startsName ∘ Char.toLower = startsName :=
    test_toLower fun char letter => by rw [startsName, letter, Bool.true_or]
  cases chars with
  | nil => rfl
  | cons first rest =>
    have begins : startsName first.toLower = startsName first := congrFun starts first
    simp only [shape?, List.map_cons, begins]
    rw [← List.map_cons, List.takeWhile_map, List.dropWhile_map, isWord_toLower]
    cases startsName first with
    | false => rfl
    | true =>
      simp only [Bool.not_true, Bool.false_eq_true, if_false]
      -- What follows the name has to begin with one bracket and to end with the other.
      generalize (first :: rest).dropWhile Unicode.isWord = following
      cases following with
      | nil => rfl
      | cons opening inner =>
        by_cases opens : opening = '['
        · subst opens
          show (if _ then _ else _) = Option.map _ (if _ then _ else _)
          by_cases closed : inner.getLast? = some ']' ∧ ¬ inner.dropLast.contains ']'
          · rw [if_pos closed, if_pos ((closes_toLower inner).2 closed), ← List.map_dropLast]
            rfl
          · rw [if_neg closed, if_neg (closed ∘ (closes_toLower inner).1)]
            rfl
        · have other : opening.toLower ≠ '[' := fun same => opens ((toLower_eq_iff rfl opening).1 same)
          simp [opens, other]

/-- What is not all digits is no index. -/
theorem readIndex_of_not_digits {chars : List Char} (digits : chars.all Numeral.isDigit = false) :
    (readIndex chars).toOption = none := by
  -- It is refused as a negative number or as no number.
  simp only [readIndex, digits]
  split
  · rfl
  · rw [if_neg (by simp)]
    rfl

/-- In small letters an index is read as the same number, or as none. -/
theorem readIndex_toLower (chars : List Char) :
    (readIndex (chars.map Char.toLower)).toOption = (readIndex chars).toOption := by
  cases digits : chars.all Numeral.isDigit with
  | true =>
    -- Digits have no case.
    have same : ∀ char ∈ chars, char.toLower = char := by
      intro char member
      refine Text.toLower_of_not_isAlpha fun letter => ?_
      have digit := List.all_eq_true.1 digits char member
      rw [Numeral.isDigit_of_isAlpha letter] at digit
      cases digit
    rw [List.map_congr_left same, List.map_id']
  | false =>
    have others : (chars.map Char.toLower).all Numeral.isDigit = false := by
      rwa [List.all_map, test_toLower fun _ letter => Numeral.isDigit_of_isAlpha letter]
    rw [readIndex_of_not_digits digits, readIndex_of_not_digits others]

/-- In small letters a segment is read with its name in small letters, or is none either. -/
theorem read_toLower (chars : List Char) :
    (read (chars.map Char.toLower)).toOption = (read chars).toOption.map lowered := by
  cases chars with
  | nil => rfl
  | cons first rest =>
    have shape := shape?_toLower (first :: rest)
    rw [List.map_cons] at shape ⊢
    simp only [read, shape]
    cases shape? (first :: rest) with
    | none => rfl
    | some parts =>
      obtain ⟨name, index⟩ := parts
      cases index with
      | none => simp [Except.toOption, lowered, Text.lowered_ofList]
      | some index =>
        -- Whether the index is one has nothing to do with the name before it.
        simp only [Option.map_some, Outcome.toOption_map, readIndex_toLower, Option.map_map,
          Function.comp_def, lowered, Text.lowered_ofList]

/-- In small letters several segments are read with their names in small letters, or are not either. -/
theorem reads_toLower (pieces : List (List Char)) :
    ((pieces.map (List.map Char.toLower)).mapM read).toOption =
      (pieces.mapM read).toOption.map (List.map lowered) := by
  -- The first piece that cannot be read is at the same place in both.
  induction pieces with
  | nil => rfl
  | cons piece rest ih =>
    simp only [List.map_cons, List.mapM_cons, Outcome.toOption_bind, read_toLower, ih]
    cases (read piece).toOption with
    | none => rfl
    | some first => cases (rest.mapM read).toOption <;> rfl

end Segment

namespace Path

/-- The path with the names of its segments in small letters. -/
def lowered (path : Path) : Path :=
  ⟨path.segments.map Segment.lowered⟩

/-- In small letters a path is read with the names of its segments in small letters, or is none either. -/
theorem read_lowered (text : String) :
    (read (Text.lowered text)).toOption = (read text).toOption.map lowered := by
  by_cases present : text = ""
  · rw [present]
    rfl
  · have chars : (Text.lowered text).toList = text.toList.map Char.toLower := by
      rw [Text.lowered, String.toList_ofList]
    -- There are as many small letters as there were letters.
    have presentToo : Text.lowered text ≠ "" := by
      intro empty
      rw [← String.toList_eq_nil_iff, chars, List.map_eq_nil_iff, String.toList_eq_nil_iff] at empty
      exact present empty
    rw [read_of_present present, read_of_present presentToo, chars, Text.pieces_toLower rfl,
      Outcome.toOption_map, Outcome.toOption_map, Segment.reads_toLower, Option.map_map,
      Option.map_map]
    rfl

/-- Texts that agree are read as the same path but for the case of its names, or as none. -/
theorem read_agree {text other : String} (agree : Text.agree text other = true) :
    (read text).toOption.map lowered = (read other).toOption.map lowered := by
  rw [← read_lowered, ← read_lowered, Text.agree_iff.1 agree]

end Path

end RecordFilter
