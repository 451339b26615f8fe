import RecordFilter.Text.Blank
import RecordFilter.Text.Lines
import RecordFilter.Text.Search
import Mathlib.Data.List.DropRight
import Mathlib.Data.List.TakeWhile

/-! Cutting, trimming and splitting texts: what is put together is taken apart again. -/

namespace RecordFilter.Text

/-- Lines as a text, each with a line feed after it. -/
def ended (lines : List String) : String :=
  String.join (lines.map (· ++ "\n"))

/-- The number of spaces that a line begins with. -/
def leadingSpaces (line : String) : Nat :=
  (line.toList.takeWhile (· == ' ')).length

variable {separator mark : Char} {chars before after other beyond : List Char}
  {line ending : String} {texts others : List String}

/-- A text is cut at the first separator in it. -/
theorem cut?_cons_eq (none : separator ∉ before) :
    cut? [separator] (before ++ separator :: after) = some (before, after) := by
  -- Nothing before the separator equals it, so the search walks past it all.
  induction before with
  | nil => simp [cut?]
  | cons char rest ih =>
    rw [List.mem_cons, not_or] at none
    have other : [separator].isPrefixOf (char :: (rest ++ separator :: after)) = false := by
      simp [List.isPrefixOf, none.1]
    rw [List.cons_append, cut?, other, ih none.2]
    rfl

/-- A text without a separator is not cut. -/
theorem cut?_eq_none (none : separator ∉ chars) : cut? [separator] chars = .none := by
  -- A cut that was found would put the separator in the text.
  cases cut : cut? [separator] chars with
  | none => rfl
  | some parts =>
    have there : separator ∈ chars := by
      rw [cut?_eq_some cut]
      simp
    exact absurd there none

/-- What stands on either side of the first separator is settled by the whole. -/
theorem append_separator_inj (none : separator ∉ before) (noneOther : separator ∉ other)
    (same : before ++ separator :: after = other ++ separator :: beyond) :
    before = other ∧ after = beyond := by
  -- Both cuts are made at the first separator, so they are one cut.
  have cut : cut? [separator] (before ++ separator :: after) = some (before, after) :=
    cut?_cons_eq none
  rw [same, cut?_cons_eq noneOther] at cut
  exact Prod.mk.inj (Option.some.inj cut.symm)

/-- A character of joined rows stands in the separator or in one of the rows. -/
theorem not_mem_intercalate {between : List Char} {rows : List (List Char)} (apart : mark ∉ between)
    (every : ∀ row ∈ rows, mark ∉ row) : mark ∉ between.intercalate rows := by
  -- The mark would stand in a row or between two rows.
  induction rows with
  | nil => simp
  | cons row rest ih =>
    obtain ⟨first, others⟩ := List.forall_mem_cons.1 every
    cases rest with
    | nil => simpa using first
    | cons second more =>
      rw [List.intercalate_cons_cons]
      simp [first, apart, ih others]

/-- Lines that hold no line feed are found again between those of their text. -/
theorem splitOn_ended (single : ∀ line ∈ texts, '\n' ∉ line.toList) :
    (ended texts).toList.splitOn '\n' = texts.map String.toList ++ [[]] := by
  have feed : "\n".toList = ['\n'] := rfl
  have rows : (ended texts).toList = ['\n'].intercalate (texts.map String.toList ++ [[]]) := by
    -- The text ends in a line feed, after which an empty row follows.
    rw [ended, String.toList_join, List.flatMap_map]
    clear single
    induction texts with
    | nil => rfl
    | cons line rest ih =>
      rw [List.flatMap_cons, ih, String.toList_append, feed]
      cases rest <;> simp [List.intercalate_cons_cons]
  rw [rows]
  refine List.splitOn_intercalate '\n' ?_ (by simp)
  rw [List.forall_mem_append, List.forall_mem_map, List.forall_mem_singleton]
  exact ⟨single, List.not_mem_nil⟩

/-- Lines that hold no line feed are settled by their text. -/
theorem ended_inj (single : ∀ line ∈ texts, '\n' ∉ line.toList)
    (singleOther : ∀ line ∈ others, '\n' ∉ line.toList) (same : ended texts = ended others) :
    texts = others := by
  -- Lines without a line feed are got back by splitting at it.
  have rows : texts.map String.toList ++ [[]] = others.map String.toList ++ [[]] := by
    rw [← splitOn_ended single, same, splitOn_ended singleOther]
  exact (List.map_inj_right fun _ _ => String.toList_inj.1).1 (List.append_cancel_right rows)

/-- Of a trimmed text every character stands in the text. -/
theorem trimChars_subset (chars : List Char) : trimChars chars ⊆ chars :=
  fun _ member =>
    (List.dropWhile_suffix isBlank).subset ((List.rdropWhile_prefix isBlank _).subset member)

/-- A trimmed text begins with the first character that is not blank. -/
theorem head?_trimChars (chars : List Char) :
    (trimChars chars).head? = chars.find? fun char => !isBlank char := by
  induction chars with
  | nil => rfl
  | cons char rest ih =>
    cases blank : isBlank char with
    | true =>
      rw [List.find?_cons_of_neg (by simp [blank]), ← ih]
      simp [trimChars, dropBlank, blank]
    | false =>
      -- Whatever is trimmed from the other end, this character stops it.
      rw [List.find?_cons_of_pos (by simp [blank])]
      simp [trimChars, dropBlank, blank, List.dropWhile_append]
      split <;> simp

/-- What trimming leaves alone does not begin with a blank. -/
theorem solid_of_trimChars {first : Char} {rest : List Char}
    (kept : trimChars (first :: rest) = first :: rest) : isBlank first = false := by
  -- What `dropWhile` leaves begins with a character that fails its test.
  have begins := head?_trimChars (first :: rest)
  rw [kept] at begins
  simpa using List.find?_some begins.symm

/-- A text without a blank at either end is not trimmed. -/
theorem trimChars_eq_self (begins : ∀ char ∈ chars.head?, isBlank char = false)
    (ends : ∀ char ∈ chars.getLast?, isBlank char = false) : trimChars chars = chars := by
  -- A solid head stops the dropping from the left, a solid end that from the right.
  have kept : dropBlank chars = chars := by
    cases chars with
    | nil => rfl
    | cons char rest => exact List.dropWhile_cons_of_neg (by simp [begins char rfl])
  have whole : chars.rdropWhile isBlank = chars := by
    refine List.rdropWhile_eq_self_iff.2 fun present => ?_
    simp [ends _ (List.getLast?_eq_some_getLast present)]
  exact (congrArg (List.rdropWhile isBlank) kept).trans whole

/-- A blank at the end is trimmed. -/
theorem trimChars_concat {char : Char} (blank : isBlank char = true) (chars : List Char) :
    trimChars (chars ++ [char]) = trimChars chars := by
  -- If only blanks were left before it the blank goes with them, else it goes from the right.
  have dropped : (dropBlank (chars ++ [char])).rdropWhile isBlank =
      (dropBlank chars).rdropWhile isBlank := by
    unfold dropBlank
    rw [List.dropWhile_append]
    split
    · rename_i none
      simp [List.isEmpty_iff.1 none, blank]
    · exact List.rdropWhile_concat_pos _ _ _ blank
  exact dropped

/-- What follows a line feed is split by itself. -/
theorem splitLines_append (current before after : List Char) :
    splitLines current (before ++ '\n' :: after) =
      splitLines current (before ++ ['\n']) ++ splitLines [] after := by
  -- The line in hand grows until a line feed ends it, which may come before the last one.
  induction before generalizing current with
  | nil => simp [splitLines]
  | cons char rest ih =>
    by_cases ends : char = '\n'
    · subst ends
      simp [splitLines, ih]
    · simp [splitLines, ih]

/-- The lines of a text that ends in a line feed come before those of the text that follows. -/
theorem lines_append (start rest : String) :
    lines (start ++ "\n" ++ rest) = lines (start ++ "\n") ++ lines rest := by
  -- The line feed closes the last line of the first text.
  have feed : "\n".toList = ['\n'] := rfl
  simp only [lines, String.toList_append, feed, List.append_assoc, List.singleton_append]
  rw [splitLines_append, List.map_append]

/-- Characters other than line feeds belong to the line in hand. -/
theorem splitLines_of_not_mem (single : '\n' ∉ before) (current after : List Char) :
    splitLines current (before ++ after) = splitLines (before.reverse ++ current) after := by
  -- Without a line feed every character is added to the current line.
  induction before generalizing current with
  | nil => rfl
  | cons char rest ih =>
    obtain ⟨other, later⟩ := not_or.1 (fun feed => single (List.mem_cons.2 feed))
    rw [List.cons_append, splitLines, ih later]
    · simp
    · exact Ne.symm other

/-- A text that holds no line feed is a single line, unless it is empty. -/
theorem lines_of_not_mem (single : '\n' ∉ line.toList) (present : line ≠ "") :
    lines line = [line] := by
  -- The whole text stays in the current line until the end.
  have whole : splitLines [] line.toList = splitLines line.toList.reverse [] := by
    simpa using splitLines_of_not_mem single [] []
  have reversed : line.toList.reverse ≠ [] := by simpa using present
  rw [lines, whole, splitLines]
  · simp
  · exact reversed

/-- The carriage return that a line loses is a blank at its end. -/
theorem trimChars_dropReturn (chars : List Char) :
    trimChars (dropReturn chars.reverse).reverse = trimChars chars := by
  -- Only the last character may be lost, and only a carriage return.
  rcases List.eq_nil_or_concat' chars with rfl | ⟨before, char, rfl⟩
  · rfl
  · rw [List.reverse_concat]
    unfold dropReturn
    split
    · rename_i returned
      obtain ⟨rfl, rfl⟩ := List.cons.inj returned
      rw [List.reverse_reverse, trimChars_concat (by decide)]
    · rw [← List.reverse_concat, List.reverse_reverse]

/-- A line before a line feed is taken off a text, up to blanks at its end. -/
theorem exists_lines_feed (single : '\n' ∉ line.toList) (rest : String) :
    ∃ taken, lines (line ++ "\n" ++ rest) = taken :: lines rest ∧ trim taken = trim line := by
  -- A carriage return before the feed is dropped, and trimming would drop it too.
  have feed : "\n".toList = ['\n'] := rfl
  refine ⟨String.ofList (dropReturn line.toList.reverse).reverse, ?_, ?_⟩
  · simp only [lines, String.toList_append, feed, List.append_assoc, List.singleton_append]
    rw [splitLines_of_not_mem single, List.append_nil, splitLines, List.map_cons]
  · rw [trim, String.toList_ofList, trimChars_dropReturn]
    rfl

/-- A line before either ending is taken off a text, up to blanks at its end. -/
theorem exists_lines_ended (ends : ending = "\n" ∨ ending = "\r\n")
    (single : '\n' ∉ line.toList) (rest : String) :
    ∃ taken, lines (line ++ ending ++ rest) = taken :: lines rest ∧ trim taken = trim line := by
  obtain rfl | rfl := ends
  · exact exists_lines_feed single rest
  · -- The carriage return is a blank, so it may as well belong to the line.
    have longer : '\n' ∉ (line ++ "\r").toList := by simp [single]
    obtain ⟨taken, split, same⟩ := exists_lines_feed longer rest
    have returned : trim (line ++ "\r") = trim line := by
      rw [trim, String.toList_append]
      exact congrArg String.ofList (trimChars_concat (by decide) _)
    have feed : "\r" ++ "\n" = "\r\n" := by decide
    refine ⟨taken, ?_, same.trans returned⟩
    have whole : line ++ "\r\n" = line ++ "\r" ++ "\n" := by rw [← feed, String.append_assoc]
    rw [whole]
    exact split

/-- Without texts nothing is joined. -/
theorem joined_nil (separator : String) : joined separator [] = "" := by
  simp [joined]

/-- A single text is joined with nothing. -/
theorem joined_singleton (separator text : String) : joined separator [text] = text := by
  simp [joined]

/-- The first of joined lines is taken off their text, up to blanks at its end. -/
theorem exists_lines_joined (ends : ending = "\n" ∨ ending = "\r\n")
    (single : '\n' ∉ line.toList) {rest : List String} (present : line = "" → rest ≠ []) :
    ∃ taken, lines (joined ending (line :: rest)) = taken :: lines (joined ending rest) ∧
      trim taken = trim line := by
  -- The last line has no ending of its own, so it only counts as a line if it is not empty.
  cases rest with
  | nil =>
    refine ⟨line, ?_, rfl⟩
    rw [joined_singleton, joined_nil]
    exact lines_of_not_mem single fun empty => present empty rfl
  | cons second more =>
    rw [joined, String.intercalate_cons_cons]
    exact exists_lines_ended ends single _

end RecordFilter.Text
