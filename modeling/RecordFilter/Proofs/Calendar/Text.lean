import RecordFilter.Calendar.Timestamp.Text
import RecordFilter.Proofs.Json.Numeral
import Mathlib.Data.List.TakeWhile

/-! Dates and timestamps that are written and read again. -/

namespace RecordFilter

namespace Calendar.Scan

open Numeral (isDigit)

variable {α β : Type} {scan : Scan α} {next : α → Scan β} {found : α} {chars rest run : List Char}

/-- What is read first decides what is read next, and where. -/
theorem bind_of_some (here : scan chars = some (found, rest)) :
    (scan >>= next) chars = next found rest := by
  -- A scan is a function of the characters, and the bind hands on what it leaves of them.
  show (scan chars).bind _ = _
  rw [here]
  rfl

/-- Nothing is read after what cannot be read. -/
theorem bind_of_none (here : scan chars = none) : (scan >>= next) chars = none := by
  -- A scan that fails leaves nothing for the next one to start from.
  show (scan chars).bind _ = _
  rw [here]
  rfl

/-- A reading that uses the whole text up gives what it found. -/
theorem whole_of_some {text : String} (here : scan text.toList = some (found, [])) :
    whole scan text = some found := by
  -- Nothing is left over, so the scan for the end succeeds.
  have run : (scan >>= fun found => finish >>= fun _ => pure found) text.toList =
      some (found, []) := bind_of_some here
  exact congrArg (Option.map Prod.fst) run

/-- A text that cannot be read is not read as a whole either. -/
theorem whole_of_none {text : String} (here : scan text.toList = none) : whole scan text = none := by
  -- The scan fails before the end of the text is asked for.
  have run : (scan >>= fun found => finish >>= fun _ => pure found) text.toList = none :=
    bind_of_none here
  exact congrArg (Option.map Prod.fst) run

variable {least width value : Nat}

/-- As many digits as are allowed are read, whatever follows them. -/
theorem digitsBetween_append (digits : ∀ char ∈ run, isDigit char = true)
    (length : run.length = width) (enough : least ≤ width) :
    digitsBetween least width (run ++ rest) = some (run, rest) := by
  -- The width is the length of the run, so no digit of the rest can be taken with it.
  have taken : ((run ++ rest).take width).takeWhile isDigit = run := by
    rw [← length, List.take_left]
    exact List.takeWhile_eq_self_iff.2 digits
  rw [digitsBetween, taken, if_neg (by omega), List.drop_left]

/-- Fewer digits than are allowed are read up to what is no digit. -/
theorem digitsBetween_of_noDigit (digits : ∀ char ∈ run, isDigit char = true)
    (ends : Numeral.NoDigit rest) (enough : least ≤ run.length) (room : run.length ≤ width) :
    digitsBetween least width (run ++ rest) = some (run, rest) := by
  -- The width may reach beyond the run, but the rest does not begin with a digit.
  have taken : ((run ++ rest).take width).takeWhile isDigit = run := by
    rw [List.take_append, List.take_of_length_le room]
    refine Numeral.takeWhile_digits digits fun char first => ?_
    cases rest with
    | nil => simp at first
    | cons other rest =>
      cases left : width - run.length with
      | zero => simp [left] at first
      | succ count => exact ends char (by simpa [left] using first)
  rw [digitsBetween, taken, if_neg (by omega), List.drop_left]

/-- A number that is filled up to the greatest width is read, whatever follows it. -/
theorem number_padded (positive : 0 < width) (small : value < 10 ^ width) (enough : least ≤ width) :
    number least width (Numeral.padded width value ++ rest) = some (value, rest) := by
  -- The zeros in front count as digits, and they do not change the number.
  have read : digitsBetween least width (Numeral.padded width value ++ rest) =
      some (Numeral.padded width value, rest) :=
    digitsBetween_append (fun _ => Numeral.isDigit_of_mem_padded)
      (Numeral.length_padded_eq positive small) enough
  rw [number, bind_of_some read, Numeral.ofDigits_padded]
  rfl

/-- A digit is neither white space nor a sign. -/
theorem solid_of_isDigit {char : Char} (digit : isDigit char = true) :
    Text.isBlank char = false ∧ char ≠ '-' ∧ char ≠ '+' := by
  refine ⟨?_, by rintro rfl; exact absurd digit (by decide),
    by rintro rfl; exact absurd digit (by decide)⟩
  -- The codes of the digits lie apart from those of blanks.
  have within : '0' ≤ char ∧ char ≤ '9' := by
    unfold isDigit Numeral.digit? at digit
    split at digit
    · assumption
    · cases digit
  have low : 48 ≤ char.toNat := within.1
  have high : char.toNat ≤ 57 := within.2
  simp only [Text.isBlank, Bool.or_eq_false_iff, Bool.and_eq_false_iff, decide_eq_false_iff_not,
    beq_eq_false_iff_ne]
  omega

/-- Zeros in front make a number begin with a digit. -/
theorem exists_padded (positive : 0 < width) (small : value < 10 ^ width) :
    ∃ first others, Numeral.padded width value = first :: others ∧ isDigit first = true := by
  have length := Numeral.length_padded_eq positive small
  cases filled : Numeral.padded width value with
  -- A number takes up its whole width, which is not nothing.
  | nil =>
    rw [filled, List.length_nil] at length
    omega
  | cons first others =>
    exact ⟨first, others, rfl, Numeral.isDigit_of_mem_padded (by rw [filled]; exact List.mem_cons_self)⟩

/-- No white space stands before a digit. -/
theorem blanks_padded (positive : 0 < width) (small : value < 10 ^ width) :
    blanks (Numeral.padded width value ++ rest) = some ((), Numeral.padded width value ++ rest) := by
  -- The first character is a digit, before which no blank is passed over.
  obtain ⟨first, others, filled, digit⟩ := exists_padded positive small
  rw [filled]
  simp [blanks, Text.dropBlank, solid_of_isDigit digit, modify, modifyGet,
    MonadStateOf.modifyGet, StateT.modifyGet]

/-- A number before which white space could stand is read without any. -/
theorem padded_padded (positive : 0 < width) (small : value < 10 ^ width) :
    Scan.padded width (Numeral.padded width value ++ rest) = some (value, rest) :=
  (bind_of_some (blanks_padded positive small)).trans (number_padded positive small positive)

/-- The text that is left can be looked at. -/
theorem get_eq : (get : Scan (List Char)) chars = some (chars, chars) :=
  rfl

/-- Another text can be put in the place of the one that is left. -/
theorem set_eq : (set rest : Scan PUnit) chars = some (⟨⟩, rest) :=
  rfl

/-- The text that is left can be changed. -/
theorem modify_eq (change : List Char → List Char) :
    (modify change : Scan PUnit) chars = some (⟨⟩, change chars) :=
  rfl

/-- A year of four digits is read without a sign. -/
theorem year_padded (small : value < 10 ^ 4) :
    year (Numeral.padded 4 value ++ rest) = some ((value : Int), rest) := by
  obtain ⟨first, others, filled, digit⟩ := exists_padded (by decide) small
  obtain ⟨-, minus, plus⟩ := solid_of_isDigit digit
  have read : number 1 4 (Numeral.padded 4 value ++ rest) = some (value, rest) :=
    number_padded (by decide) small (by decide)
  rw [year, bind_of_some (blanks_padded (by decide) small), bind_of_some get_eq]
  rw [filled, List.cons_append] at read ⊢
  -- Neither sign is a digit.
  generalize written : first :: (others ++ rest) = text at read ⊢
  split
  · exact absurd (List.cons.inj written).1 minus
  · exact absurd (List.cons.inj written).1 plus
  · rw [bind_of_some read]
    rfl

/-- A character that is allowed is read. -/
theorem oneOf_cons {allowed : List Char} {char : Char} (member : allowed.contains char = true) :
    oneOf allowed (char :: rest) = some ((), rest) :=
  if_pos member

/-- Nothing is read from an outcome that is at hand. -/
theorem lift_eq (outcome : Option α) :
    (liftM outcome : Scan α) chars = outcome.map fun found => (found, chars) := by
  cases outcome <;> rfl

end Calendar.Scan

namespace Date

open Calendar Scan

variable {day : Date} {rest : List Char}

/-- The month and the day of a date have two digits at most. -/
theorem small (day : Date) : day.month < 10 ^ 2 ∧ day.day < 10 ^ 2 := by
  -- No month has more than thirty-one days, whatever the year.
  obtain ⟨-, ⟨-, month⟩, -, within⟩ := day.valid
  have days : daysIn day.year day.month ≤ 31 := by
    unfold daysIn
    split
    · split <;> decide
    · split <;> decide
  omega

/-- A year of four digits is written with all four of them. -/
theorem yearChars_eq (early : 0 ≤ day.year) (late : day.year ≤ 9999) :
    yearChars day.year = Numeral.padded 4 day.year.toNat := by
  -- Such a year has neither a sign nor more than four digits.
  rw [yearChars, if_pos ⟨early, late⟩]
  congr 1
  omega

/-- A date of a year of four digits is read, whatever follows it. -/
theorem scan_chars (early : 0 ≤ day.year) (late : day.year ≤ 9999) :
    scan (day.chars ++ rest) = some (day, rest) := by
  -- Year, month and day are read one after another, each as many digits as were written.
  have whole : (day.year.toNat : Int) = day.year := Int.toNat_of_nonneg early
  rw [chars, yearChars_eq early late, List.append_assoc, List.append_assoc, scan,
    bind_of_some (year_padded (by omega)), List.cons_append, bind_of_some (oneOf_cons rfl),
    bind_of_some (padded_padded (by decide) day.small.1), List.cons_append,
    bind_of_some (oneOf_cons rfl), bind_of_some (padded_padded (by decide) day.small.2), lift_eq,
    whole, of?, dif_pos day.valid]
  rfl

/-- A date of a year of four digits is read back from its text. -/
theorem read?_text (early : 0 ≤ day.year) (late : day.year ≤ 9999) : read? day.text = some day := by
  -- The date is the whole text, so that nothing follows it.
  refine whole_of_some ?_
  have all : scan (day.chars ++ []) = some (day, []) := scan_chars early late
  rw [List.append_nil] at all
  rwa [text, String.toList_ofList]

end Date

namespace Calendar.Scan

variable {rest : List Char} {width value : Nat}

/-- A fraction of some places is read up to what is no digit, as nanoseconds. -/
theorem fraction_places (positive : 0 < width) (small : value < 10 ^ width) (room : width ≤ 9)
    (ends : Numeral.NoDigit rest) :
    fraction ('.' :: Numeral.padded width value ++ rest) =
      some (value * Nat.pow 10 (9 - width), rest) := by
  -- As many places as were written are read, and the missing ones count as zeros.
  have length := Numeral.length_padded_eq positive small
  have read : digitsBetween 1 9 (Numeral.padded width value ++ rest) =
      some (Numeral.padded width value, rest) :=
    digitsBetween_of_noDigit (fun _ => Numeral.isDigit_of_mem_padded) ends (by omega) (by omega)
  -- Beyond nine places digits are passed over, of which there are none here.
  have none : rest.dropWhile Numeral.isDigit = rest := by
    cases rest with
    | nil => rfl
    | cons char rest => rw [List.dropWhile_cons_of_neg (by simp [ends char rfl])]
  rw [List.cons_append, fraction, bind_of_some get_eq]
  refine (bind_of_some set_eq).trans ?_
  rw [bind_of_some read, bind_of_some (modify_eq _), none,
    Numeral.ofDigits_padded, length]
  rfl

/-- Nanoseconds are read from their fraction up to what is neither a digit nor a point. -/
theorem fraction_chars {nanosecond : Nat} (small : nanosecond < 10 ^ 9) (ends : Numeral.NoDigit rest)
    (point : rest.head? ≠ some '.') :
    fraction (Timestamp.fractionChars nanosecond ++ rest) = some (nanosecond, rest) := by
  -- Three, six or nine places are written, the fewest that say the whole fraction.
  unfold Timestamp.fractionChars
  split
  · rename_i zero
    rw [List.nil_append, fraction, bind_of_some get_eq, zero]
    split
    · exact absurd rfl point
    · rfl
  split
  · rename_i whole
    have exact : nanosecond / 1000000 * Nat.pow 10 (9 - 3) = nanosecond :=
      Nat.div_mul_cancel (Nat.dvd_of_mod_eq_zero whole)
    rw [fraction_places (by decide) (by omega) (by decide) ends, exact]
  split
  · rename_i whole
    have exact : nanosecond / 1000 * Nat.pow 10 (9 - 6) = nanosecond :=
      Nat.div_mul_cancel (Nat.dvd_of_mod_eq_zero whole)
    rw [fraction_places (by decide) (by omega) (by decide) ends, exact]
  · rw [fraction_places (by decide) small (by decide) ends]
    exact congrArg (fun value => some (value, rest)) (Nat.mul_one nanosecond)

end Calendar.Scan

namespace Timestamp

open Calendar Scan

/-- A leap second stands at the end of a minute, where a text can write it as second sixty. -/
def IsProper (time : Timestamp) : Prop :=
  time.nanosecond.val < 1000000000 ∨ time.second.val % 60 = 59

variable {time : Timestamp}

/-- The timestamp of what a clock shows of another one. -/
theorem of?_clock (time : Timestamp) :
    ∃ shown, of? time.date (time.second.val / 3600) (time.second.val / 60 % 60)
        (time.second.val % 60 + time.nanosecond.val / 1000000000)
        (time.nanosecond.val % 1000000000) = some shown ∧ (shown = time ↔ time.IsProper) := by
  obtain ⟨date, ⟨second, within⟩, ⟨nanosecond, bounded⟩⟩ := time
  unfold IsProper of?
  dsimp only
  -- Only a proper leap second shows sixty, and it is held as the second before it.
  have start : second / 3600 * 3600 + second / 60 % 60 * 60 +
      min (second % 60 + nanosecond / 1000000000) 59 < 86400 := by
    omega
  have fraction : nanosecond % 1000000000 +
      (if second % 60 + nanosecond / 1000000000 = 60 then 1000000000 else 0) < 2000000000 := by
    split <;> omega
  refine ⟨_, dif_pos ⟨by omega, start, fraction⟩, ?_⟩
  simp only [Timestamp.mk.injEq, Fin.mk.injEq, true_and]
  split <;> omega

/-- A clock of universal time is not taken back. -/
theorem behind?_zero (time : Timestamp) : time.behind? 0 = some time := by
  -- No seconds are taken off, so neither the day nor the time of day changes.
  obtain ⟨date, ⟨second, within⟩, nanosecond⟩ := time
  have same : (((second : Int) - 0) % 86400).toNat = second := by omega
  have kept : Fin.ofNat 86400 second = ⟨second, within⟩ := Fin.ext (Nat.mod_eq_of_lt within)
  unfold behind?
  simp only [same, kept]
  rw [if_neg (by omega), if_neg (by omega)]
  rfl

/-- A date is read up to the time of day of the interchange form. -/
theorem scanInterchange_date {day : Date} (early : 0 ≤ day.year) (late : day.year ≤ 9999)
    (rest : List Char) :
    scanInterchange (day.chars ++ rest) = (do
      oneOf ['T', 't', ' ']
      let hour ← number 2 2
      oneOf [':']
      let minute ← number 2 2
      oneOf [':']
      let second ← number 2 2
      let nanosecond ← fraction
      let offset ← scanOffset
      let date ← Date.of? day.year day.month day.day
      let time ← of? date hour minute second nanosecond
      time.behind? offset : Scan Timestamp) rest := by
  -- The date is read as it is elsewhere, and what is left is the scan of the clock.
  have whole : (day.year.toNat : Int) = day.year := Int.toNat_of_nonneg early
  rw [Date.chars, Date.yearChars_eq early late]
  simp only [List.append_assoc, List.cons_append]
  rw [scanInterchange, bind_of_some (number_padded (by decide) (by omega) (by decide)),
    bind_of_some (oneOf_cons rfl),
    bind_of_some (number_padded (by decide) day.small.1 (by decide)), bind_of_some (oneOf_cons rfl),
    bind_of_some (number_padded (by decide) day.small.2 (by decide)), whole]

/-- A timestamp in a year of four digits is read from what is stored of it as its clock shows it. -/
theorem scanInterchange_chars (early : 0 ≤ time.date.year) (late : time.date.year ≤ 9999) :
    ∃ shown, scanInterchange (time.localChars ++ ['Z']) = some (shown, []) ∧
      (shown = time ↔ time.IsProper) := by
  -- The clock shows a leap second as the sixtieth, which a proper time of day may have.
  obtain ⟨shown, read, same⟩ := of?_clock time
  refine ⟨shown, ?_, same⟩
  have within := time.second.isLt
  have bounded := time.nanosecond.isLt
  have places : fraction (fractionChars (time.nanosecond.val % 1000000000) ++ ['Z']) =
      some (time.nanosecond.val % 1000000000, ['Z']) :=
    fraction_chars (by omega) (by simp [Numeral.NoDigit]; decide) (by decide)
  have offset : scanOffset ['Z'] = some (0, []) := rfl
  have day : (liftM (Date.of? time.date.year time.date.month time.date.day) : Scan Date) [] =
      some (time.date, []) := by
    rw [lift_eq, Date.of?, dif_pos time.date.valid]
    rfl
  have clock : (liftM (of? time.date (time.second.val / 3600) (time.second.val / 60 % 60)
      (time.second.val % 60 + time.nanosecond.val / 1000000000)
      (time.nanosecond.val % 1000000000)) : Scan Timestamp) [] = some (shown, []) := by
    rw [lift_eq, read]
    rfl
  rw [localChars, List.append_assoc, scanInterchange_date early late, clockChars]
  simp only [List.append_assoc, List.cons_append]
  rw [bind_of_some (oneOf_cons rfl),
    bind_of_some (number_padded (by decide) (by omega) (by decide)), bind_of_some (oneOf_cons rfl),
    bind_of_some (number_padded (by decide) (by omega) (by decide)), bind_of_some (oneOf_cons rfl),
    bind_of_some (number_padded (by decide) (by omega) (by decide)), bind_of_some places,
    bind_of_some offset, bind_of_some day, bind_of_some clock, lift_eq, behind?_zero]
  rfl

/-- A timestamp in a year of four digits is read back exactly if its leap second has a place. -/
theorem read?_storedText_iff (early : 0 ≤ time.date.year) (late : time.date.year ≤ 9999) :
    read? time.storedText = some time ↔ time.IsProper := by
  -- The first form that is tried reads the text, so the others are not asked.
  obtain ⟨shown, scanned, same⟩ := @scanInterchange_chars time early late
  have read : read? time.storedText = some shown := by
    have whole : whole scanInterchange time.storedText = some shown := by
      refine whole_of_some ?_
      rwa [storedText, String.toList_ofList]
    rw [read?, whole]
    rfl
  rw [read, Option.some.injEq, same]

/-- A date alone is read as the timestamp of its midnight. -/
theorem read?_date_text {day : Date} (early : 0 ≤ day.year) (late : day.year ≤ 9999) :
    read? day.text = some (midnight day) := by
  have text : day.text.toList = day.chars ++ [] := by
    rw [Date.text, String.toList_ofList, List.append_nil]
  -- Neither form with a time of day goes on after the date.
  have interchange : whole scanInterchange day.text = none := by
    refine whole_of_none ?_
    rw [text, scanInterchange_date early late]
    rfl
  have separated : whole (scanLocal (oneOf ['T'])) day.text = none := by
    refine whole_of_none ?_
    rw [text, scanLocal, bind_of_some (Date.scan_chars early late)]
    rfl
  have spaced : whole (scanLocal blanks) day.text = none := by
    refine whole_of_none ?_
    rw [text, scanLocal, bind_of_some (Date.scan_chars early late)]
    rfl
  rw [read?, interchange, separated, spaced, Date.read?_text early late]
  rfl

end Timestamp

end RecordFilter
