import Mathlib.Data.List.Forall2
import Mathlib.Tactic.Choose
import Mathlib.Tactic.FinCases
import RecordFilter.Proofs.Filter.Case
import RecordFilter.Proofs.Numeral.Digits
import RecordFilter.Proofs.Text

/-! The grammar of paths: the texts that are read, the segments they spell, and how these are written. -/

namespace RecordFilter

/-- Digits without the zeros at their start; of nothing but zeros the last one stays. -/
def Numeral.unpadded : List Char → List Char
  -- A zero is at the start as long as another digit follows it.
  | '0' :: second :: rest =>
    if second.isDigit then unpadded (second :: rest) else '0' :: second :: rest
  | chars => chars

/-- Without zeros at their start, digits up to a closing bracket are those of their number. -/
theorem Numeral.unpadded_append {run : List Char} (present : run ≠ [])
    (every : ∀ char ∈ run, char.isDigit = true) :
    unpadded (run ++ [']']) = digits (ofDigits run) ++ [']'] := by
  induction run with
  | nil => exact absurd rfl present
  | cons first rest ih =>
    by_cases zero : first = '0'
    · subst zero
      cases rest with
      | nil => rfl
      | cons second more =>
        -- A zero before another digit adds nothing to the number.
        obtain ⟨-, others⟩ := List.forall_mem_cons.1 every
        have digit : second.isDigit = true := others second List.mem_cons_self
        show (if _ then _ else _) = _
        rw [if_pos digit]
        exact ih (List.cons_ne_nil _ _) others
    · have lead : (first :: rest).head? ≠ some '0' := fun same => zero (Option.some.inj same)
      rw [digits_ofDigits present every lead, List.cons_append, unpadded]
      exact fun second more same => absurd (List.cons.inj same).1 zero

namespace Segment

variable {chars name index : List Char} {segment : Segment}

/-- The characters of a name: an ASCII letter or an underscore, and then characters of words. -/
def IsName (chars : List Char) : Prop :=
  ∃ first rest, chars = first :: rest ∧ (first.isAlpha = true ∨ first = '_') ∧
    ∀ char ∈ rest, Unicode.isWord char = true

/-- The segment that a piece of a path spells: a name, which an index in brackets may follow. -/
inductive Spells : List Char → Segment → Prop
  | field {name : List Char} (named : IsName name) : Spells name ⟨String.ofList name, none⟩
  | item {name index : List Char} (named : IsName name) (present : index ≠ [])
      (digits : ∀ char ∈ index, char.isDigit = true)
      (fits : Numeral.ofDigits index < UInt64.size) :
      Spells (name ++ '[' :: (index ++ [']']))
        ⟨String.ofList name, some (UInt64.ofNat (Numeral.ofDigits index))⟩

/-- A piece of a path without zeros at the start of its index. -/
def unpadded (chars : List Char) : List Char :=
  -- The index begins after the opening bracket, and a piece without one has none.
  match chars.dropWhile (· ≠ '[') with
  | [] => chars
  | opening :: inner => chars.takeWhile (· ≠ '[') ++ opening :: Numeral.unpadded inner

/-- A character that may start a name is one of words. -/
theorem isWord_of_start {first : Char} (start : first.isAlpha = true ∨ first = '_') :
    Unicode.isWord first = true := by
  -- Letters and the underscore are both characters of words.
  rcases start with letter | rfl
  · exact isWord_of_isAlpha letter
  · rfl

/-- Digits are characters of words. -/
theorem isWord_of_isDigit {char : Char} (digit : char.isDigit = true) :
    Unicode.isWord char = true := by
  -- Digits have codes of ASCII, where being of words is being a letter, a digit or an underscore.
  have ascii : char.toNat < 0x80 := by
    have codes : 48 ≤ char.toNat ∧ char.toNat ≤ 57 := by
      simpa [Char.isDigit, UInt32.le_iff_toNat_le] using digit
    omega
  rw [Unicode.isWord, if_pos ascii, Unicode.isAsciiWord, Char.isAlphanum, digit, Bool.or_true,
    Bool.true_or]

/-- Names are made of characters of words. -/
theorem IsName.isWord (named : IsName name) : ∀ char ∈ name, Unicode.isWord char = true := by
  -- The characters a name may begin with are word characters too.
  obtain ⟨first, rest, rfl, start, words⟩ := named
  exact List.forall_mem_cons.2 ⟨isWord_of_start start, words⟩

/-- No mark of the grammar stands in a name. -/
theorem IsName.not_mem (named : IsName name) {mark : Char} (other : Unicode.isWord mark = false) :
    mark ∉ name := by
  -- Every character of a name is one of words.
  intro member
  rw [named.isWord mark member] at other
  cases other

/-- Where a name ends, the characters of words end. -/
theorem IsName.takeWhile_append (named : IsName name) (rest : List Char)
    (ends : ∀ char, rest.head? = some char → Unicode.isWord char = false) :
    (name ++ rest).takeWhile Unicode.isWord = name ∧
      (name ++ rest).dropWhile Unicode.isWord = rest := by
  -- The name is taken as a whole, and the first character after it stops the search.
  rw [List.takeWhile_append_of_pos named.isWord, List.dropWhile_append_of_pos named.isWord]
  cases rest with
  | nil => exact ⟨List.append_nil name, rfl⟩
  | cons char rest => simp [ends char rfl]

/-- The characters of words that a piece starts with are a name, if the first of them starts one. -/
theorem isName_takeWhile {first : Char} (starts : startsName first = true) (rest : List Char) :
    IsName ((first :: rest).takeWhile Unicode.isWord) := by
  -- The first character is one of words itself, so it is taken with those that follow.
  have start : first.isAlpha = true ∨ first = '_' := by
    simpa [startsName] using starts
  refine ⟨first, rest.takeWhile Unicode.isWord, ?_, start, ?_⟩
  · exact List.takeWhile_cons_of_pos (isWord_of_start start)
  · exact fun char member => List.mem_takeWhile_imp member

/-- The shape of a piece is a name and what stands in brackets after it. -/
theorem shape?_eq_some_iff {inner : Option (List Char)} :
    shape? chars = some (name, inner) ↔ IsName name ∧
      (inner = none ∧ chars = name ∨
        ∃ index, inner = some index ∧ ']' ∉ index ∧ chars = name ++ '[' :: (index ++ [']'])) := by
  constructor
  · -- The reader takes the characters of words, and looks at what follows them.
    intro shaped
    unfold shape? at shaped
    split at shaped
    · cases shaped
    · rename_i first rest
      split at shaped
      · cases shaped
      · rename_i starts
        have named := isName_takeWhile (by simpa using starts) rest
        have whole := List.takeWhile_append_dropWhile (p := Unicode.isWord) (l := first :: rest)
        split at shaped
        · rename_i ended
          simp only [Option.some.injEq, Prod.mk.injEq] at shaped
          obtain ⟨rfl, rfl⟩ := shaped
          rw [ended, List.append_nil] at whole
          exact ⟨named, .inl ⟨rfl, whole.symm⟩⟩
        · rename_i bracketed opened
          split at shaped
          · rename_i closed
            simp only [Option.some.injEq, Prod.mk.injEq] at shaped
            obtain ⟨rfl, rfl⟩ := shaped
            refine ⟨named, .inr ⟨_, rfl, by simpa using closed.2, ?_⟩⟩
            rw [List.dropLast_append_getLast? _ closed.1, ← opened, whole]
          · cases shaped
        · cases shaped
  · intro given
    -- A bracket is no character of words, so the name is taken apart from what follows it.
    obtain ⟨named, parts⟩ := given
    obtain ⟨first, rest, rfl, start, words⟩ := id named
    have starts : startsName first = true := by
      simpa [startsName] using start
    rcases parts with ⟨rfl, rfl⟩ | ⟨index, rfl, inside, rfl⟩
    · have ends := named.takeWhile_append [] (by simp)
      rw [List.append_nil] at ends
      simp [shape?, starts, ends]
    · have bracket : Unicode.isWord '[' = false := rfl
      have ends := named.takeWhile_append ('[' :: (index ++ [']'])) (by simp [bracket])
      rw [List.cons_append] at ends ⊢
      simp only [shape?, starts, ends]
      simp [inside]

/-- An index is read from digits alone, and from all that fit 64 bits. -/
theorem readIndex_eq_ok_iff {value : UInt64} :
    readIndex index = .ok value ↔
      index ≠ [] ∧ (∀ char ∈ index, char.isDigit = true) ∧
        Numeral.ofDigits index < UInt64.size ∧ value = UInt64.ofNat (Numeral.ofDigits index) := by
  have digits : index.all Numeral.isDigit = true ↔ ∀ char ∈ index, char.isDigit = true := by
    rw [List.all_eq_true]
    exact forall₂_congr fun char _ => by rw [Numeral.isDigit_eq]
  unfold readIndex
  simp only [digits]
  split
  · rename_i negative
    -- A minus sign is no digit, and stands among the characters wherever the blanks end.
    have sign : '-' ∈ index :=
      (List.dropWhile_sublist _).mem (List.mem_of_mem_head? (Option.mem_def.2 negative))
    simp only [reduceCtorEq, false_iff]
    exact fun given => absurd (given.2.1 _ sign) (by decide)
  · split
    · rename_i good
      rw [Except.ok.injEq]
      exact ⟨fun same => ⟨good.1, good.2.1, good.2.2, same.symm⟩, fun given => given.2.2.2.symm⟩
    · rename_i bad
      simp only [reduceCtorEq, false_iff]
      exact fun given => bad ⟨given.1, given.2.1, given.2.2.1⟩

/-- A piece that has a shape is read as its name with the index that is read from between the brackets. -/
theorem read_of_shape? {inner : Option (List Char)} (shaped : shape? chars = some (name, inner)) :
    read chars = match inner with
      -- Only an empty piece is refused before its shape is asked for.
      | none => .ok ⟨String.ofList name, none⟩
      | some index =>
        (readIndex index).map fun value => ⟨String.ofList name, some value⟩ := by
  cases chars with
  | nil => cases shaped
  | cons first rest =>
    simp only [read, shaped]
    cases inner <;> rfl

/-- A piece is read as the segment that it spells. -/
theorem read_eq_ok_iff : read chars = .ok segment ↔ Spells chars segment := by
  constructor
  · intro good
    cases shaped : shape? chars with
    | none => cases chars <;> simp [read, shaped] at good
    | some parts =>
      obtain ⟨name, inner⟩ := parts
      rw [read_of_shape? shaped] at good
      obtain ⟨named, ⟨rfl, rfl⟩ | ⟨index, rfl, -, rfl⟩⟩ := shape?_eq_some_iff.1 shaped
      · obtain rfl := Except.ok.inj good
        exact .field named
      · obtain ⟨value, found, rfl⟩ := Outcome.map_eq_ok.1 good
        obtain ⟨present, digits, fits, rfl⟩ := readIndex_eq_ok_iff.1 found
        exact .item named present digits fits
  · intro spells
    cases spells with
    | field named => exact read_of_shape? (shape?_eq_some_iff.2 ⟨named, .inl ⟨rfl, rfl⟩⟩)
    | @item name index named present digits fits =>
      -- A closing bracket is no digit, so the first one ends the piece.
      have inside : ']' ∉ index := fun member => absurd (digits _ member) (by decide)
      have shaped := shape?_eq_some_iff.2 ⟨named, .inr ⟨_, rfl, inside, rfl⟩⟩
      rw [read_of_shape? shaped]
      exact Outcome.map_eq_ok.2 ⟨_, readIndex_eq_ok_iff.2 ⟨present, digits, fits, rfl⟩, rfl⟩

/-- A segment with a name is spelled by its text. -/
theorem spells_text (named : IsName segment.name.toList) : Spells segment.text.toList segment := by
  obtain ⟨name, index⟩ := segment
  cases index with
  | none =>
    have spelled := Spells.field named
    rwa [String.ofList_toList] at spelled
  | some index =>
    -- The digits of an index are its own, and no index is too large for them.
    have digits : ∀ char ∈ Numeral.digits index.toNat, char.isDigit = true := fun char member => by
      rw [← Numeral.isDigit_eq, Numeral.isDigit_of_mem_digits member]
    have fits : Numeral.ofDigits (Numeral.digits index.toNat) < UInt64.size := by
      rw [Numeral.ofDigits_digits]
      exact index.toNat_lt
    have spelled := Spells.item named (Numeral.digits_ne_nil _) digits fits
    rw [Numeral.ofDigits_digits, UInt64.ofNat_toNat, String.ofList_toList] at spelled
    have written : text ⟨name, some index⟩ =
        name ++ "[" ++ String.ofList (Numeral.digits index.toNat) ++ "]" := rfl
    rw [written]
    simpa using spelled

/-- The name of what a piece spells is a name. -/
theorem Spells.isName (spells : Spells chars segment) : IsName segment.name.toList := by
  cases spells with
  | field named | item named => rwa [String.toList_ofList]

/-- A piece without brackets has no index with zeros. -/
theorem unpadded_of_not_mem (plain : '[' ∉ name) : unpadded name = name := by
  -- Every character is passed over in search of a bracket.
  have all : ∀ char ∈ name, decide (char ≠ '[') = true :=
    fun char member => decide_eq_true fun same => plain (same ▸ member)
  rw [unpadded, List.dropWhile_eq_nil_iff.2 all]

/-- The index of a piece begins after its first opening bracket. -/
theorem unpadded_append (plain : '[' ∉ name) (inner : List Char) :
    unpadded (name ++ '[' :: inner) = name ++ '[' :: Numeral.unpadded inner := by
  -- Nothing in front of the bracket is one, so the search ends there.
  have all : ∀ char ∈ name, decide (char ≠ '[') = true :=
    fun char member => decide_eq_true fun same => plain (same ▸ member)
  have drop : (name ++ '[' :: inner).dropWhile (· ≠ '[') = '[' :: inner := by
    rw [List.dropWhile_append_of_pos all]
    rfl
  have take : (name ++ '[' :: inner).takeWhile (· ≠ '[') = name := by
    rw [List.takeWhile_append_of_pos all]
    exact List.append_nil name
  rw [unpadded, drop]
  exact congrArg (· ++ _) take

/-- What a piece spells is written as the piece without zeros at the start of its index. -/
theorem Spells.toList_text (spells : Spells chars segment) :
    segment.text.toList = unpadded chars := by
  cases spells with
  | @field name named =>
    rw [unpadded_of_not_mem (named.not_mem rfl)]
    exact String.toList_ofList
  -- The index is written by its number, which its digits stand for without their zeros.
  | @item name index named present digits fits =>
    rw [unpadded_append (named.not_mem rfl), Numeral.unpadded_append present digits]
    have value : (UInt64.ofNat (Numeral.ofDigits index)).toNat = Numeral.ofDigits index :=
      UInt64.toNat_ofNat_of_lt fits
    have written : text ⟨String.ofList name, some (UInt64.ofNat (Numeral.ofDigits index))⟩ =
        String.ofList name ++ "[" ++ String.ofList (Numeral.digits
          (UInt64.ofNat (Numeral.ofDigits index)).toNat) ++ "]" := rfl
    rw [written, value]
    simp

/-- A piece that spells something is not empty. -/
theorem Spells.ne_nil (spells : Spells chars segment) : chars ≠ [] := by
  -- A piece begins with a name, and a name with a character.
  cases spells with
  | field named | item named =>
    obtain ⟨first, rest, rfl, -⟩ := named
    exact List.cons_ne_nil _ _

/-- Only characters of words and brackets stand in a piece that spells something. -/
theorem Spells.not_mem {mark : Char} (spells : Spells chars segment)
    (other : Unicode.isWord mark = false) (opening : mark ≠ '[') (closing : mark ≠ ']') :
    mark ∉ chars := by
  -- A piece is a name, and perhaps an index between its brackets.
  cases spells with
  | field named => exact named.not_mem other
  | @item name index named present digits fits =>
    have plain : mark ∉ name := named.not_mem other
    have inside : mark ∉ index := by
      intro member
      rw [isWord_of_isDigit (digits mark member)] at other
      cases other
    simp [plain, inside, opening, closing]

end Segment

namespace Path

variable {text : String} {path : Path}

/-- A text as it is without zeros at the start of the indices in its pieces. -/
def unpadded (text : String) : String :=
  String.ofList (['.'].intercalate ((text.toList.splitOn '.').map Segment.unpadded))

/-- Every segment of the path has a name of the grammar. -/
def Named (path : Path) : Prop :=
  ∀ segment ∈ path.segments, Segment.IsName segment.name.toList

/-- Several pieces are read as the segments that they spell, piece by piece. -/
theorem mapM_read_eq_ok_iff {pieces : List (List Char)} {segments : List Segment} :
    pieces.mapM Segment.read = .ok segments ↔ List.Forall₂ Segment.Spells pieces segments := by
  -- The first piece is read before the rest, and both have to succeed.
  induction pieces generalizing segments with
  | nil =>
    rw [List.forall₂_nil_left_iff]
    exact ⟨fun same => (Except.ok.inj same).symm, fun none => congrArg Except.ok none.symm⟩
  | cons piece rest ih =>
    rw [List.mapM_cons, Outcome.cons_eq_ok, List.forall₂_cons_left_iff]
    simp only [Segment.read_eq_ok_iff, ih]

/-- A text that is not empty is read as the segments that its pieces between points spell. -/
theorem read_eq_ok_iff (present : text ≠ "") :
    read text = .ok path ↔
      List.Forall₂ Segment.Spells (text.toList.splitOn '.') path.segments := by
  -- The reader cuts the text at its points and reads piece by piece.
  rw [read_of_present present, Text.pieces_eq_splitOn, Outcome.map_eq_ok]
  constructor
  · intro given
    obtain ⟨segments, good, rfl⟩ := given
    exact mapM_read_eq_ok_iff.1 good
  · exact fun spells => ⟨path.segments, mapM_read_eq_ok_iff.2 spells, rfl⟩

/-- The segments of a path that was read have names. -/
theorem named_of_read (good : read text = .ok path) : path.Named := by
  -- Each segment was spelled by a piece, which begins with its name.
  by_cases present : text = ""
  · subst present
    obtain rfl := Except.ok.inj good
    exact List.forall_mem_nil _
  · have spells := (read_eq_ok_iff present).1 good
    intro segment member
    obtain ⟨place, inside, rfl⟩ := List.mem_iff_getElem.1 member
    exact (spells.get (spells.length_eq ▸ inside) inside).isName

/-- Only characters of words, brackets and points stand in a text that is read. -/
theorem not_mem_of_read {mark : Char} (good : read text = .ok path)
    (other : Unicode.isWord mark = false) (opening : mark ≠ '[') (closing : mark ≠ ']')
    (point : mark ≠ '.') : mark ∉ text.toList := by
  -- The text is its pieces with points between them.
  by_cases present : text = ""
  · subst present
    exact List.not_mem_nil
  · have spells := (read_eq_ok_iff present).1 good
    rw [← Text.intercalate_pieces '.' text.toList, Text.pieces_eq_splitOn]
    refine Text.not_mem_intercalate (by simpa using point) fun piece member => ?_
    obtain ⟨place, inside, rfl⟩ := List.mem_iff_getElem.1 member
    exact (spells.get inside (spells.length_eq ▸ inside)).not_mem other opening closing

/-- The text of a path is that of its segments, with points between them. -/
theorem toList_text (path : Path) :
    path.text.toList = ['.'].intercalate (path.segments.map fun segment => segment.text.toList) := by
  -- Putting texts together is putting their characters together.
  rw [text, Text.joined, String.toList_intercalate, List.map_map]
  rfl

/-- The pieces of a path's text are the texts of its segments. -/
theorem splitOn_text (named : path.Named) (present : path.segments ≠ []) :
    path.text.toList.splitOn '.' = path.segments.map fun segment => segment.text.toList := by
  -- No point stands in the text of a segment, so it is cut between segments only.
  rw [toList_text]
  refine List.splitOn_intercalate '.' ?_ (by simpa using present)
  rw [List.forall_mem_map]
  exact fun segment member => (Segment.spells_text (named segment member)).not_mem rfl (by decide) (by decide)

/-- A path is read back from its text. -/
theorem read_text (named : path.Named) : read path.text = .ok path := by
  by_cases present : path.segments = []
  · obtain ⟨segments⟩ := path
    subst present
    rfl
  · have spells : List.Forall₂ Segment.Spells (path.text.toList.splitOn '.') path.segments := by
      rw [splitOn_text named present, List.forall₂_map_left_iff, List.forall₂_same]
      exact fun segment member => Segment.spells_text (named segment member)
    refine (read_eq_ok_iff ?_).2 spells
    -- The empty text is a single piece without a name, so it is not that of a path with segments.
    intro empty
    rw [empty] at spells
    obtain ⟨segment, others, first, -⟩ := List.forall₂_cons_left_iff.1 spells
    exact first.ne_nil rfl

/-- What is left of a path is written with the pieces that are left of its text. -/
theorem toList_text_tail (named : path.Named) (count : Nat) :
    (path.tail count).text.toList =
      ['.'].intercalate ((path.text.toList.splitOn '.').drop count) := by
  by_cases present : path.segments = []
  · -- The empty path has the empty text, which is a single empty piece.
    obtain ⟨segments⟩ := path
    subst present
    cases count <;> simp [tail, toList_text]
  · rw [splitOn_text named present, toList_text, tail, List.map_drop]

/-- A path that was read is written as its text without zeros at the start of the indices. -/
theorem text_of_read (good : read text = .ok path) : path.text = unpadded text := by
  rw [← String.toList_inj, unpadded, String.toList_ofList, toList_text]
  by_cases present : text = ""
  · subst present
    obtain rfl := Except.ok.inj good
    rfl
  · -- Piece by piece, what was spelled is written without the zeros.
    refine congrArg _ ?_
    have spells := (read_eq_ok_iff present).1 good
    rw [← List.forall₂_eq_eq_eq, List.forall₂_map_left_iff, List.forall₂_map_right_iff]
    exact (spells.imp fun _ _ spells => spells.toList_text).flip

/-- The texts that are read are the empty one and those whose pieces all spell segments. -/
theorem exists_read_iff : (∃ path, read text = .ok path) ↔
    text = "" ∨ ∀ piece ∈ text.toList.splitOn '.', ∃ segment, Segment.Spells piece segment := by
  by_cases present : text = ""
  · subst present
    exact iff_of_true ⟨empty, rfl⟩ (.inl rfl)
  · constructor
    · -- Every piece was read as some segment.
      intro given
      obtain ⟨path, good⟩ := given
      have spells := (read_eq_ok_iff present).1 good
      refine .inr fun piece member => ?_
      obtain ⟨place, inside, rfl⟩ := List.mem_iff_getElem.1 member
      exact ⟨_, spells.get inside (spells.length_eq ▸ inside)⟩
    · intro given
      -- A segment is chosen for each piece, and together they are the path.
      have every := given.resolve_left present
      have : Nonempty Segment := ⟨⟨"", none⟩⟩
      choose! spelled spells using every
      refine ⟨⟨(text.toList.splitOn '.').map spelled⟩, (read_eq_ok_iff present).2 ?_⟩
      rw [List.forall₂_map_right_iff, List.forall₂_same]
      exact spells

/--
Exactly the texts of the grammar are read, as the segments that their pieces spell.

What was read is written as its text without zeros at the start of the indices, and what is left of
it as the pieces that are left. Paths with names are read back from their texts.
-/
theorem read_grammar :
    (∀ text : String, (∃ path, read text = .ok path) ↔
      text = "" ∨ ∀ piece ∈ text.toList.splitOn '.', ∃ segment, Segment.Spells piece segment) ∧
    (∀ text path, read text = .ok path →
      (text = "" ∧ path.segments = [] ∨
        text ≠ "" ∧ List.Forall₂ Segment.Spells (text.toList.splitOn '.') path.segments) ∧
      path.text = unpadded text ∧ read path.text = .ok path ∧
      ∀ count, (path.tail count).text.toList =
        ['.'].intercalate ((path.text.toList.splitOn '.').drop count)) ∧
    ∀ path : Path, path.Named → read path.text = .ok path := by
  -- Everything is said of the segments that were read, which have names.
  refine ⟨fun text => exists_read_iff, fun text path good => ?_, fun path named => read_text named⟩
  have named := named_of_read good
  refine ⟨?_, text_of_read good, read_text named, toList_text_tail named⟩
  by_cases present : text = ""
  · subst present
    obtain rfl := Except.ok.inj good
    exact .inl ⟨rfl, rfl⟩
  · exact .inr ⟨present, (read_eq_ok_iff present).1 good⟩

/-- A path with zeros before one index, and with the greatest index there is. -/
theorem read_grammar_zeros :
    let written : Path := ⟨[⟨"_a", some 7⟩, ⟨"b1", none⟩, ⟨"C", some 18446744073709551615⟩]⟩
    read "_a[007].b1.C[18446744073709551615]" = .ok written ∧
      written.text = unpadded "_a[007].b1.C[18446744073709551615]" ∧
      written.Named ∧ read written.text = .ok written := by
  intro written
  have good : read "_a[007].b1.C[18446744073709551615]" = .ok written := by decide +kernel
  -- Each of the three names is spelled out.
  have named : written.Named := by
    intro segment member
    fin_cases member
    · exact ⟨'_', ['a'], rfl, .inr rfl, List.forall_mem_singleton.2 rfl⟩
    · exact ⟨'b', ['1'], rfl, .inl rfl, List.forall_mem_singleton.2 rfl⟩
    · exact ⟨'C', [], rfl, .inl rfl, List.forall_mem_nil _⟩
  obtain ⟨-, readable, readBack⟩ := read_grammar
  exact ⟨good, (readable _ _ good).2.1, named, readBack _ named⟩

end Path

end RecordFilter
