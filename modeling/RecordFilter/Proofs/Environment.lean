import RecordFilter.Environment
import RecordFilter.Proofs.Text

/-! Environment files: what is written in quotes is loaded as it is, up to the first line that is wrong. -/

namespace RecordFilter.Environment

/-- The quotes that a value is written in. -/
inductive Quote
  | double
  | single
  deriving DecidableEq, Repr

/-- The character of a quote. -/
def Quote.mark : Quote → Char
  | .double => '"'
  | .single => '\''

/-- A quote is not blank. -/
theorem Quote.solid (quote : Quote) : Text.isBlank quote.mark = false := by
  cases quote <;> rfl

/-- What one line of an environment file is written for: a pair, or nothing. -/
inductive Entry
  | pair (key : String) (quote : Quote) (value : String)
  | silent (line : String)
  deriving DecidableEq, Repr

/-- The line of an entry, with a value between quotes. -/
def Entry.line : Entry → String
  | .pair key quote value =>
    key ++ "=" ++ String.singleton quote.mark ++ value ++ String.singleton quote.mark
  | .silent line => line

/-- The pair of an entry. -/
def Entry.pair? : Entry → Option (String × String)
  | .pair key _ value => some (key, value)
  | .silent _ => none

/-- The pairs of entries in order. -/
def pairs (entries : List Entry) : List (String × String) :=
  entries.filterMap Entry.pair?

/-- A line without characters other than blanks, or one that begins a comment after them. -/
def Silent (line : String) : Prop :=
  ∀ char ∈ line.toList.find? fun char => !Text.isBlank char, char = '#'

/-- Whether a line is silent is decided by its first character that is not blank. -/
instance : DecidablePred Silent :=
  fun _ => Option.decidableForallMem _

/-- The entry is one line, with a key that is read as it is written; around its pair nothing is silent. -/
inductive Entry.Fits : Entry → Prop
  | pair {key value : String} (quote : Quote) (present : key ≠ "") (undivided : '=' ∉ key.toList)
      (trimmed : Text.trim key = key) (uncommented : key.toList.head? ≠ some '#')
      (keySingle : '\n' ∉ key.toList) (valueSingle : '\n' ∉ value.toList) :
      Fits (.pair key quote value)
  | silent {line : String} (single : '\n' ∉ line.toList) (silent : Silent line) :
      Fits (.silent line)

/-- The line says something, but sets nothing: an equals sign is missing in it, or stands after blanks only. -/
structure Wrong (line : String) : Prop where
  single : '\n' ∉ line.toList
  said : ¬Silent line
  keyless : '=' ∈ line.toList → ∃ blanks after, line.toList = blanks ++ '=' :: after ∧
    ∀ char ∈ blanks, Text.isBlank char = true

/-- What is wrong with a line of a number. -/
def fault (number : Nat) (line : String) : ConfigurationError :=
  if '=' ∈ line.toList then .emptyKey number else .malformedLine number

/-- Sets variables one after another. -/
def setAll (environment : Environment) (bindings : List (String × String)) : Environment :=
  bindings.foldl (fun environment binding => environment.set binding.1 binding.2) environment

variable {environment : Environment} {number : Nat} {line taken key value ending : String}
  {entry : Entry} {entries : List Entry}

/-- After variables are set a key has its last value among them, or else the one that it had before. -/
theorem get?_setAll (environment : Environment) (bindings : List (String × String)) (key : String) :
    (environment.setAll bindings).get? key =
      (bindings.reverse.lookup key).or (environment.get? key) := by
  induction bindings generalizing environment with
  | nil => rfl
  | cons binding rest ih =>
    -- The first binding is the last one of the reversed list, so all others go before it.
    have first : (environment.set binding.1 binding.2).get? key =
        ([binding].lookup key).or (environment.get? key) := by
      rw [get?, set, Fields.getExact?_set, List.lookup_cons]
      by_cases same : key = binding.1
      · simp [same]
      · simp [same, beq_false_of_ne same, get?]
    rw [List.reverse_cons, List.lookup_append, Option.or_assoc, ← first]
    exact ih _

/-- Blanks at the ends of a line have no part in what it says. -/
theorem readLine_congr (same : Text.trim taken = Text.trim line) :
    readLine number taken = readLine number line := by
  -- A line is trimmed before anything else is done with it.
  have chars : Text.trimChars taken.toList = Text.trimChars line.toList :=
    String.ofList_injective same
  unfold readLine
  rw [chars]

/-- Silent lines are those that are passed over. -/
theorem silent_iff :
    Silent line ↔ (Text.trimChars line.toList).isEmpty ∨
      (Text.trimChars line.toList).head? = some '#' := by
  -- The first character that is not blank is the first one of the trimmed line.
  rw [Silent, ← Text.head?_trimChars]
  cases Text.trimChars line.toList <;> simp

/-- What a line says that is not silent, and is cut at an equals sign. -/
theorem readLine_of_cut {before after : List Char} (said : ¬Silent line)
    (cut : Text.cut? ['='] (Text.trimChars line.toList) = some (before, after)) :
    readLine number line =
      if (Text.trimChars before).isEmpty then .error (.emptyKey number)
      else .ok (some (String.ofList (Text.trimChars before), String.ofList (unquoted after))) := by
  -- A line that says something passes the test for blank lines and comments.
  rw [readLine, if_neg (silent_iff.not.1 said), cut]

/-- One pair of quotes is taken off a value, whatever stands between them. -/
theorem unquoted_quoted (quote : Quote) (value : List Char) :
    unquoted (quote.mark :: (value ++ [quote.mark])) = value := by
  -- Quotes are not blank, so trimming stops at both of them.
  have trimmed : Text.trimChars (quote.mark :: (value ++ [quote.mark])) =
      quote.mark :: (value ++ [quote.mark]) := by
    apply Text.trimChars_eq_self
    · simp [quote.solid]
    · simp [List.getLast?_cons, quote.solid]
  rw [unquoted, trimmed]
  cases quote <;> simp [Quote.mark, betweenQuotes?]

/-- The characters of the line of a pair. -/
theorem toList_line_pair (key : String) (quote : Quote) (value : String) :
    (Entry.pair key quote value).line.toList =
      key.toList ++ '=' :: quote.mark :: (value.toList ++ [quote.mark]) := by
  -- The parts of the line are put together in the order in which they are written.
  simp [Entry.line]

/-- The line of a pair is trimmed when its key is. -/
theorem trimChars_line_pair (present : key ≠ "") (kept : Text.trimChars key.toList = key.toList)
    (quote : Quote) (value : String) :
    Text.trimChars (Entry.pair key quote value).line.toList =
      (Entry.pair key quote value).line.toList := by
  obtain ⟨first, rest, chars⟩ := List.exists_cons_of_ne_nil (mt String.toList_eq_nil_iff.1 present)
  rw [chars] at kept
  rw [toList_line_pair, chars]
  -- The line begins as the key does, and it ends in a quote.
  apply Text.trimChars_eq_self
  · simp [Text.solid_of_trimChars kept]
  · simp [List.getLast?_cons, quote.solid]

/-- Every entry is one line. -/
theorem Entry.Fits.single (fits : entry.Fits) : '\n' ∉ entry.line.toList := by
  -- The line is made of parts none of which holds a line feed.
  cases fits with
  | pair quote _ _ _ _ keySingle valueSingle =>
    have other : '\n' ≠ quote.mark := by cases quote <;> decide
    simp [toList_line_pair, keySingle, valueSingle, other]
  | silent single _ => exact single

/-- The line of an entry says its pair. -/
theorem Entry.Fits.readLine (fits : entry.Fits) (number : Nat) :
    readLine number entry.line = .ok entry.pair? := by
  cases fits with
  | silent _ silent => exact if_pos (silent_iff.1 silent)
  | @pair key value quote present undivided trimmed uncommented _ _ =>
    have kept : Text.trimChars key.toList = key.toList := by
      simpa [Text.trim] using congrArg String.toList trimmed
    have whole := trimChars_line_pair present kept quote value
    have solid : key.toList ≠ [] := mt String.toList_eq_nil_iff.1 present
    -- The key begins the line, so the line begins no comment.
    have said : ¬Silent (Entry.pair key quote value).line := by
      rw [silent_iff, whole, toList_line_pair, List.head?_append_of_ne_nil _ solid]
      simpa using uncommented
    have cut : Text.cut? ['='] (Text.trimChars (Entry.pair key quote value).line.toList) =
        some (key.toList, quote.mark :: (value.toList ++ [quote.mark])) := by
      rw [whole, toList_line_pair, Text.cut?_cons_eq undivided]
    rw [readLine_of_cut said cut, kept, unquoted_quoted, if_neg (by simpa using present)]
    simp [Entry.pair?]

/-- A wrong line is to blame under its number. -/
theorem Wrong.readLine (wrong : Wrong line) (number : Nat) :
    readLine number line = .error (fault number line) := by
  by_cases divided : '=' ∈ line.toList
  · -- The equals sign is the first character that is not blank, and nothing is before it.
    obtain ⟨blanks, after, chars, blank⟩ := wrong.keyless divided
    have unsolid : blanks.find? (fun char => !Text.isBlank char) = none :=
      List.find?_eq_none.2 fun char member => by simp [blank char member]
    have begins : (Text.trimChars line.toList).head? = some '=' := by
      rw [Text.head?_trimChars, chars, List.find?_append, unsolid]
      rfl
    obtain ⟨rest, whole⟩ := List.head?_eq_some_iff.1 begins
    have cut : Text.cut? ['='] (Text.trimChars line.toList) = some ([], rest) := by
      simp [whole, Text.cut?]
    rw [readLine_of_cut wrong.said cut, fault, if_pos divided]
    rfl
  · have whole : Text.cut? ['='] (Text.trimChars line.toList) = none :=
      Text.cut?_eq_none fun member => divided (Text.trimChars_subset _ member)
    rw [Environment.readLine, if_neg (silent_iff.not.1 wrong.said), whole, fault, if_neg divided]

/-- Variables are set one part after the other. -/
theorem setAll_append (environment : Environment) (first second : List (String × String)) :
    environment.setAll (first ++ second) = (environment.setAll first).setAll second :=
  List.foldl_append

/-- The pair of an entry comes before those of the entries that follow. -/
theorem pairs_cons (entry : Entry) (entries : List Entry) :
    pairs (entry :: entries) = entry.pair?.toList ++ pairs entries := by
  cases entry <;> rfl

/-- A line that is read without an error sets what it says before the lines that follow. -/
theorem loadLines_cons {pair : Option (String × String)} (read : readLine number line = .ok pair)
    (environment : Environment) (rest : List String) :
    environment.loadLines number (line :: rest) =
      (environment.setAll pair.toList).loadLines (number + 1) rest := by
  -- A line sets one variable at most, which is set before the next line is read.
  rw [loadLines, read]
  cases pair <;> rfl

/-- The first entry of a text is loaded before the lines that follow it. -/
theorem loadLines_entry (ends : ending = "\n" ∨ ending = "\r\n") (fits : entry.Fits)
    (environment : Environment) (number : Nat) (rest : List String) :
    environment.loadLines number (Text.lines (Text.joined ending (entry.line :: rest))) =
      (environment.setAll entry.pair?.toList).loadLines (number + 1)
        (Text.lines (Text.joined ending rest)) := by
  by_cases present : entry.line = "" → rest ≠ []
  · obtain ⟨taken, split, same⟩ := Text.exists_lines_joined ends fits.single present
    have read : readLine number taken = .ok entry.pair? :=
      (readLine_congr same).trans (fits.readLine number)
    rw [split, loadLines_cons read]
  · -- Nothing is left of an empty entry at the end, which is not even a line.
    obtain ⟨empty, rfl⟩ : entry.line = "" ∧ rest = [] := by simpa using present
    have nothing : entry.pair? = none := by
      have read := fits.readLine number
      rw [empty] at read
      exact (Except.ok.inj read).symm
    rw [Text.joined_singleton, Text.joined_nil, empty, nothing]
    rfl

/-- The entries of a text are loaded before the lines that follow them, each of which counts. -/
theorem loadLines_entries (ends : ending = "\n" ∨ ending = "\r\n")
    (fits : ∀ entry ∈ entries, entry.Fits) (environment : Environment) (number : Nat)
    (rest : List String) :
    environment.loadLines number
        (Text.lines (Text.joined ending (entries.map Entry.line ++ rest))) =
      (environment.setAll (pairs entries)).loadLines (number + entries.length)
        (Text.lines (Text.joined ending rest)) := by
  -- The lines that follow are arbitrary, so one entry at a time is taken off the text.
  induction entries generalizing environment number with
  | nil => rfl
  | cons entry others ih =>
    obtain ⟨first, later⟩ := List.forall_mem_cons.1 fits
    rw [List.map_cons, List.cons_append, loadLines_entry ends first, ih later, pairs_cons,
      setAll_append, List.length_cons, Nat.add_right_comm, Nat.add_assoc]

/-- The first wrong line of a text ends its loading, under its number. -/
theorem loadLines_wrong (ends : ending = "\n" ∨ ending = "\r\n") (wrong : Wrong line)
    (environment : Environment) (number : Nat) (rest : List String) :
    environment.loadLines number (Text.lines (Text.joined ending (line :: rest))) =
      (environment, .error (fault number line)) := by
  -- The line is read as it was written but for its ending, and fails as it would alone.
  have present : line = "" → rest ≠ [] := by
    rintro rfl
    exact absurd (by simp [Silent]) wrong.said
  obtain ⟨taken, split, same⟩ := Text.exists_lines_joined ends wrong.single present
  rw [split, loadLines, (readLine_congr same).trans (wrong.readLine number)]

/--
A file with its values in quotes is loaded as it was written.

Each line holds a pair, or is blank or a comment. A key has the last of its values afterwards, and
every other key what it had before. At a wrong line the pairs before it are set, and no others.
-/
theorem load_quoted (environment : Environment) (ends : ending = "\n" ∨ ending = "\r\n")
    (fits : ∀ entry ∈ entries, entry.Fits) :
    environment.load (Text.joined ending (entries.map Entry.line)) =
        (environment.setAll (pairs entries), .ok ()) ∧
      (∀ key, (environment.setAll (pairs entries)).get? key =
        ((pairs entries).reverse.lookup key).or (environment.get? key)) ∧
      ∀ line rest, Wrong line →
        environment.load (Text.joined ending (entries.map Entry.line ++ line :: rest)) =
          (environment.setAll (pairs entries), .error (fault (entries.length + 1) line)) := by
  -- All entries are loaded before a wrong line is met, so both parts are one run of lines.
  refine ⟨?_, get?_setAll environment (pairs entries), fun line rest wrong => ?_⟩
  · have whole := loadLines_entries ends fits environment 1 []
    rw [List.append_nil] at whole
    rw [load, whole, Text.joined_nil]
    rfl
  · rw [load, loadLines_entries ends fits, loadLines_wrong ends wrong, Nat.add_comm]

/-- Two values of one key among silent lines, before a line without a key. -/
theorem load_quoted_twice :
    let environment : Environment := ⟨[("A", "0"), ("HOME", "/")]⟩
    let entries : List Entry := [.pair "A" .double " \"x\" = 'y' # z ", .silent "\t",
      .silent "  # A=\"1\"", .pair "A" .single "\"é"]
    let loaded : Environment := ⟨[("A", "\"é"), ("HOME", "/")]⟩
    (∀ entry ∈ entries, entry.Fits) ∧ Wrong " = 'z'" ∧
      environment.load (Text.joined "\r\n" (entries.map Entry.line)) = (loaded, .ok ()) ∧
      ∀ rest, environment.load (Text.joined "\r\n" (entries.map Entry.line ++ " = 'z'" :: rest)) =
        (loaded, .error (.emptyKey 5)) := by
  intro environment entries loaded
  have fits : ∀ entry ∈ entries, entry.Fits := by
    simp only [entries, List.forall_mem_cons]
    refine ⟨.pair _ ?_ ?_ ?_ ?_ ?_ ?_, .silent ?_ ?_, .silent ?_ ?_, .pair _ ?_ ?_ ?_ ?_ ?_ ?_,
      List.forall_mem_nil _⟩
    all_goals decide
  have wrong : Wrong " = 'z'" :=
    ⟨by decide, by decide, fun _ => ⟨[' '], " 'z'".toList, rfl, List.forall_mem_singleton.2 rfl⟩⟩
  -- The key that is set a second time keeps its place with the later value.
  have set : environment.setAll (pairs entries) = loaded := by decide
  obtain ⟨whole, -, partly⟩ := load_quoted environment (.inr rfl) fits
  rw [set] at whole partly
  exact ⟨fits, wrong, whole, fun rest => partly _ rest wrong⟩

end RecordFilter.Environment
