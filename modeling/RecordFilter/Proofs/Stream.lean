import RecordFilter.Proofs.Outcome
import RecordFilter.Proofs.Text
import RecordFilter.Stream

/-! Texts of records: which lines are written, where a text fails, and that texts are filtered one after another. -/

namespace RecordFilter

namespace Text

/-- The lines of a text that are not blank, each beside its number; every line counts, from one on. -/
def solidLines (text : String) : List (String × Nat) :=
  ((lines text).zipIdx 1).filter fun line => !allBlank line.1

end Text

/-- The record that a line holds, wherever it stands. -/
def Record.ofText? (schema : Schema) (line : String) : Option Record :=
  (Json.read? line).bind fun json => (ofJson schema json).toOption

/-- A line holds no record, and the error says why and on which line. -/
inductive StreamError.Blames (schema : Schema) (line : String) (number : Nat) : StreamError → Prop
  | notJson (unread : Json.read? line = none) : Blames schema line number (.notJson number)
  | misfit {json : Json} {cause : ConversionError} (read : Json.read? line = some json)
      (misfits : Record.ofJson schema json = .error cause) :
      Blames schema line number (.misfit number cause)

/-- The same error in a text that has other lines before it. -/
def StreamError.later (before : Nat) : StreamError → StreamError
  | .notJson line => .notJson (before + line)
  | .misfit line cause => .misfit (before + line) cause

/-- Two texts of records taken together. -/
def Summary.add (first second : Summary) : Summary :=
  ⟨first.read + second.read, first.matched + second.matched⟩

/-- The number of matches as a line by itself; of a text that fails nothing is written. -/
def Summary.counted : Except StreamError Summary → String
  | .ok summary => Text.ended [toString summary.matched]
  | .error _ => ""

/-- Each of the lines holds a record. -/
def Record.Everywhere (schema : Schema) (lines : List (String × Nat)) : Prop :=
  ∀ line ∈ lines, ∃ record, ofText? schema line.1 = some record

namespace Predicate

/-- The lines that hold a record of which the predicate holds. -/
def passing (predicate : Predicate) (schema : Schema) (lines : List (String × Nat)) : List String :=
  (lines.map Prod.fst).filter fun line => (Record.ofText? schema line).any predicate.test

/-- What comes of lines: the passing ones of all of them, or of those before the first without a record. -/
def Sifts (predicate : Predicate) (schema : Schema) (lines : List (String × Nat))
    (kept : List String) (outcome : Except StreamError Nat) : Prop :=
  (Record.Everywhere schema lines ∧ kept = predicate.passing schema lines ∧
    outcome = .ok lines.length) ∨
  ∃ before line number after cause, lines = before ++ (line, number) :: after ∧
    Record.Everywhere schema before ∧ StreamError.Blames schema line number cause ∧
    kept = predicate.passing schema before ∧ outcome = .error cause

end Predicate

namespace Text

/-- Texts that are joined with nothing between them stand one after the other. -/
theorem joined_nothing (texts : List String) : joined "" texts = String.join texts := by
  -- By neighbours, as `intercalate` puts them together.
  induction texts with
  | nil => rfl
  | cons first rest ih =>
    unfold joined at ih ⊢
    cases rest with
    | nil => simp
    | cons second more =>
      rw [String.intercalate_cons_cons, ih]
      simp

/-- The lines of two lists are written one list after the other. -/
theorem ended_append (first second : List String) :
    ended (first ++ second) = ended first ++ ended second := by
  rw [ended, List.map_append, String.join_append]
  rfl

end Text

namespace Record

variable {schema : Schema} {line : String} {number : Nat}

/-- A line is read as the record that it holds. -/
theorem ofLine_eq_ok {record : Record} :
    ofLine schema number line = .ok record ↔ ofText? schema line = some record := by
  -- Both read the text first and convert it second; `ofText?` only forgets the reasons.
  unfold ofLine ofText?
  cases read : Json.read? line with
  | none => simp
  | some json =>
    simp only [Outcome.mapError_eq_ok, Option.bind_some]
    cases ofJson schema json <;> simp [Except.toOption]

/-- A line that is not read is to blame under its own number. -/
theorem ofLine_eq_error {cause : StreamError} :
    ofLine schema number line = .error cause ↔ StreamError.Blames schema line number cause := by
  -- A line is refused for not being JSON or for not fitting, never for both.
  unfold ofLine
  cases read : Json.read? line with
  | none =>
    simp only [Except.error.injEq]
    constructor
    · rintro rfl
      exact .notJson read
    · intro blamed
      cases blamed with
      | notJson => rfl
      | misfit again => cases read.symm.trans again
  | some json =>
    simp only [Outcome.mapError_eq_error]
    constructor
    · rintro ⟨inner, misfits, rfl⟩
      exact .misfit read misfits
    · intro blamed
      cases blamed with
      | notJson unread => cases read.symm.trans unread
      | misfit again misfits =>
        obtain rfl := Option.some.inj (read.symm.trans again)
        exact ⟨_, misfits, rfl⟩

/-- The number of a line has no part in what it is read as. -/
theorem ofLine_later (before : Nat) :
    ofLine schema (before + number) line =
      (ofLine schema number line).mapError (StreamError.later before) := by
  -- The number is stored in the error and looked at nowhere else.
  unfold ofLine
  cases Json.read? line with
  | none => rfl
  | some json =>
    simp only
    cases ofJson schema json <;> rfl

end Record

namespace Predicate

variable {predicate : Predicate} {schema : Schema} {lines : List (String × Nat)}
  {kept : List String} {outcome : Except StreamError Nat}

/-- Without lines nothing is kept. -/
theorem Sifts.nil : Sifts predicate schema [] [] (.ok 0) :=
  .inl ⟨nofun, rfl, rfl⟩

/-- A line in front that holds no record ends the run before anything is kept. -/
theorem Sifts.stop {line : String} {number : Nat} {cause : StreamError}
    (blamed : StreamError.Blames schema line number cause) (lines : List (String × Nat)) :
    Sifts predicate schema ((line, number) :: lines) [] (.error cause) :=
  .inr ⟨[], line, number, lines, cause, rfl, nofun, blamed, rfl, rfl⟩

/-- A passing line in front is kept before the others. -/
theorem passing_cons {line : String} {number : Nat} {record : Record}
    (held : Record.ofText? schema line = some record) :
    predicate.passing schema ((line, number) :: lines) =
      if predicate.test record then line :: predicate.passing schema lines
      else predicate.passing schema lines := by
  -- The line has a record, so it is kept exactly if that record passes.
  rw [passing, List.map_cons, List.filter_cons, held, Option.any_some]
  rfl

/-- A line in front that holds a record is counted, and kept if it passes. -/
theorem Sifts.cons {line : String} {number : Nat} {record : Record}
    (held : Record.ofText? schema line = some record)
    (sifts : Sifts predicate schema lines kept outcome) :
    Sifts predicate schema ((line, number) :: lines)
      (if predicate.test record then line :: kept else kept) (outcome.map (· + 1)) := by
  -- Wherever the run over the other lines ends, this line comes before it.
  have everywhere {others : List (String × Nat)} (rest : Record.Everywhere schema others) :
      Record.Everywhere schema ((line, number) :: others) :=
    List.forall_mem_cons.2 ⟨⟨record, held⟩, rest⟩
  rcases sifts with ⟨rest, rfl, rfl⟩ | ⟨before, bad, place, after, cause, rfl, rest, blamed, rfl, rfl⟩
  · exact .inl ⟨everywhere rest, (passing_cons held).symm, rfl⟩
  · exact .inr ⟨(line, number) :: before, bad, place, after, cause, rfl, everywhere rest, blamed,
      (passing_cons held).symm, rfl⟩

/-- A run over lines keeps the passing ones, up to the first that is not blank and holds no record. -/
theorem matchingLines_sifts (predicate : Predicate) (schema : Schema) (number : Nat)
    (lines : List String) :
    Sifts predicate schema ((lines.zipIdx number).filter fun line => !Text.allBlank line.1)
      (predicate.matchingLines schema number lines).1
      (predicate.matchingLines schema number lines).2 := by
  -- Blank lines are skipped with their number counted; the first line refused ends the run.
  induction lines generalizing number with
  | nil => exact .nil
  | cons line rest ih =>
    rw [List.zipIdx_cons, matchingLines]
    cases blank : Text.allBlank line with
    | true => simpa [blank] using ih (number + 1)
    | false =>
      simp only [List.filter_cons, blank, Bool.not_false, if_true, Bool.false_eq_true, if_false]
      cases read : Record.ofLine schema number line with
      | error cause => exact .stop (Record.ofLine_eq_error.1 read) _
      | ok record => exact .cons (Record.ofLine_eq_ok.1 read) (ih (number + 1))

/-- Lines further on in a text are read alike, and only the numbers in errors are greater. -/
theorem matchingLines_later (predicate : Predicate) (schema : Schema) (before number : Nat)
    (lines : List String) :
    predicate.matchingLines schema (before + number) lines =
      ((predicate.matchingLines schema number lines).1,
        (predicate.matchingLines schema number lines).2.mapError (StreamError.later before)) := by
  -- The lines do not change, only the numbers told in an error.
  induction lines generalizing number with
  | nil => rfl
  | cons line rest ih =>
    rw [matchingLines, matchingLines]
    split
    · exact ih (number + 1)
    · rw [Record.ofLine_later]
      cases Record.ofLine schema number line with
      | error cause => rfl
      | ok record =>
        have kept : (Except.ok record).mapError (StreamError.later before) = .ok record := rfl
        simp only [kept, Nat.add_assoc, ih (number + 1)]
        cases (predicate.matchingLines schema (number + 1) rest).2 <;> rfl

/-- When all lines of one part hold records, the run goes on with those of the other part. -/
theorem matchingLines_append {number count : Nat} {first : List String}
    (read : (predicate.matchingLines schema number first).2 = .ok count) (second : List String) :
    predicate.matchingLines schema number (first ++ second) =
      ((predicate.matchingLines schema number first).1 ++
          (predicate.matchingLines schema (number + first.length) second).1,
        (predicate.matchingLines schema (number + first.length) second).2.map (count + ·)) := by
  induction first generalizing number count with
  | nil =>
    obtain rfl := Except.ok.inj read
    simp only [List.nil_append, matchingLines, List.length_nil, Nat.add_zero, Nat.zero_add]
    cases predicate.matchingLines schema number second with
    | mk kept outcome => cases outcome <;> rfl
  | cons line rest ih =>
    have place : number + (rest.length + 1) = number + 1 + rest.length := by omega
    rw [List.cons_append, matchingLines, List.length_cons, place]
    rw [matchingLines] at read ⊢
    split
    · rename_i blank
      rw [if_pos blank] at read
      exact ih read
    · rename_i solid
      rw [if_neg solid] at read
      cases held : Record.ofLine schema number line with
      | error cause =>
        rw [held] at read
        cases read
      | ok record =>
        -- The line is counted before the others of its part, which are all read too.
        rw [held] at read
        obtain ⟨others, readRest, rfl⟩ := Outcome.map_eq_ok.1 read
        simp only [ih readRest]
        cases predicate.test record <;>
          cases (predicate.matchingLines schema (number + 1 + rest.length) second).2 <;>
            simp [Except.map, Nat.add_right_comm]

/-- Of a run either the kept lines are written, or their number unless it fails. -/
theorem filterText_eq {text : String}
    (run : predicate.matchingLines schema 1 (Text.lines text) = (kept, outcome)) :
    predicate.filterText schema false text =
        ⟨Text.ended kept, outcome.map fun read => ⟨read, kept.length⟩⟩ ∧
      predicate.filterText schema true text =
        ⟨Summary.counted (outcome.map fun read => ⟨read, kept.length⟩),
          outcome.map fun read => ⟨read, kept.length⟩⟩ := by
  -- Writing the lines and counting them are two ends of one run.
  constructor
  · rw [filterText, run]
    simp only [Bool.false_eq_true, if_false, Text.joined_nothing]
    rfl
  · rw [filterText, run]
    cases outcome with
    | error cause => rfl
    | ok read => simp [Except.map, Summary.counted, Text.ended]

/-- Both ways of writing end alike, and the number that one writes is that of the lines of the other. -/
theorem filterText_true (predicate : Predicate) (schema : Schema) (text : String) :
    predicate.filterText schema true text =
      ⟨Summary.counted (predicate.filterText schema false text).outcome,
        (predicate.filterText schema false text).outcome⟩ := by
  -- The counting mode tells what the writing mode counted.
  obtain ⟨written, counted⟩ := @filterText_eq predicate schema _ _ text rfl
  rw [counted, written]

/-- A text of records after another that ends in a line feed and is read to its end. -/
theorem filterText_append {start rest : String} {summary : Summary}
    (read : (predicate.filterText schema false (start ++ "\n")).outcome = .ok summary) :
    predicate.filterText schema false (start ++ "\n" ++ rest) =
      ⟨(predicate.filterText schema false (start ++ "\n")).written ++
          (predicate.filterText schema false rest).written,
        ((predicate.filterText schema false rest).outcome.map summary.add).mapError
          (StreamError.later (Text.lines (start ++ "\n")).length)⟩ := by
  -- Both texts are run over by themselves first.
  obtain ⟨first, ending, run⟩ : ∃ first ending,
      predicate.matchingLines schema 1 (Text.lines (start ++ "\n")) = (first, ending) := ⟨_, _, rfl⟩
  obtain ⟨second, after, runRest⟩ : ∃ second after,
      predicate.matchingLines schema 1 (Text.lines rest) = (second, after) := ⟨_, _, rfl⟩
  rw [(filterText_eq run).1] at read ⊢
  rw [(filterText_eq runRest).1]
  obtain ⟨count, rfl, rfl⟩ := Outcome.map_eq_ok.1 read
  -- The lines of the second text are read as if they stood alone, under greater numbers.
  have whole : predicate.matchingLines schema 1 (Text.lines (start ++ "\n" ++ rest)) =
      (first ++ second, (after.mapError (StreamError.later (Text.lines (start ++ "\n")).length)).map
        (count + ·)) := by
    rw [Text.lines_append, matchingLines_append (congrArg Prod.snd run),
      Nat.add_comm 1, matchingLines_later, run, runRest]
  rw [(filterText_eq whole).1, Text.ended_append, List.length_append]
  cases after <;> rfl

/--
A text of records is filtered line by line, and nothing is lost, added or moved.

The first line that is not blank and holds no record ends the run, after the passing lines before it
were written; their number is only written when there is no such line.
-/
theorem filterText_sifted (predicate : Predicate) (schema : Schema) (text : String) :
    ((Record.Everywhere schema (Text.solidLines text) ∧
        predicate.filterText schema false text =
          ⟨Text.ended (predicate.passing schema (Text.solidLines text)),
            .ok ⟨(Text.solidLines text).length,
              (predicate.passing schema (Text.solidLines text)).length⟩⟩) ∨
      ∃ before line number after cause, Text.solidLines text = before ++ (line, number) :: after ∧
        Record.Everywhere schema before ∧ StreamError.Blames schema line number cause ∧
        predicate.filterText schema false text =
          ⟨Text.ended (predicate.passing schema before), .error cause⟩) ∧
    predicate.filterText schema true text =
      ⟨Summary.counted (predicate.filterText schema false text).outcome,
        (predicate.filterText schema false text).outcome⟩ ∧
    ∀ start rest summary, text = start ++ "\n" →
      (predicate.filterText schema false text).outcome = .ok summary →
      predicate.filterText schema false (text ++ rest) =
        ⟨(predicate.filterText schema false text).written ++
            (predicate.filterText schema false rest).written,
          ((predicate.filterText schema false rest).outcome.map summary.add).mapError
            (StreamError.later (Text.lines text).length)⟩ := by
  -- The outcome is read off how the lines were sifted; a text ending in a line feed can be cut
  -- there.
  refine ⟨?_, filterText_true predicate schema text, ?_⟩
  · rcases matchingLines_sifts predicate schema 1 (Text.lines text) with
      ⟨everywhere, kept, read⟩ | ⟨before, line, number, after, cause, split, everywhere, blamed,
        kept, failed⟩
    · refine .inl ⟨everywhere, ?_⟩
      rw [(filterText_eq (Prod.ext kept read)).1]
      rfl
    · refine .inr ⟨before, line, number, after, cause, split, everywhere, blamed, ?_⟩
      rw [(filterText_eq (Prod.ext kept failed)).1]
      rfl
  · rintro start rest summary rfl read
    exact filterText_append read

/-- Two people with a blank line between them, before any other text. -/
theorem filterText_sifted_people :
    let schema : Schema := ⟨"person", [("name", .string), ("age", .int)]⟩
    let text : String := "\x7b\"age\":5\x7d\r\n \n\x7b\"name\":\"b\"\x7d\n"
    ∃ predicate : Predicate,
      (Filter.condition "age" .greaterThan (some (.int 2)) false).compile .standard schema =
          .ok predicate ∧
      (predicate.filterText schema false text).outcome = .ok ⟨2, 1⟩ ∧
      ∀ rest, predicate.filterText schema false (text ++ rest) =
        ⟨(predicate.filterText schema false text).written ++
            (predicate.filterText schema false rest).written,
          ((predicate.filterText schema false rest).outcome.map (Summary.add ⟨2, 1⟩)).mapError
            (StreamError.later (Text.lines text).length)⟩ := by
  -- The text has a carriage return, a blank line and a line that does not pass.
  intro schema text
  have outcome : ((Filter.condition "age" .greaterThan (some (.int 2)) false).compile .standard
      schema).toOption.bind (fun predicate =>
        (predicate.filterText schema false text).outcome.toOption) = some ⟨2, 1⟩ := by
    decide +kernel
  obtain ⟨predicate, compiled, read⟩ := Option.bind_eq_some_iff.1 outcome
  have made : (Filter.condition "age" .greaterThan (some (.int 2)) false).compile .standard schema =
      .ok predicate := Outcome.toOption_eq_some.1 compiled
  have ended : (predicate.filterText schema false text).outcome = .ok ⟨2, 1⟩ :=
    Outcome.toOption_eq_some.1 read
  have start : text = "\x7b\"age\":5\x7d\r\n \n\x7b\"name\":\"b\"\x7d" ++ "\n" := by decide
  exact ⟨predicate, made, ended, fun rest =>
    (filterText_sifted predicate schema text).2.2 _ rest _ start ended⟩

end Predicate

end RecordFilter
