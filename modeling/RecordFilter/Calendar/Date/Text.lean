import RecordFilter.Calendar.Date
import RecordFilter.Calendar.Scan
import RecordFilter.Numeral.Layout

/-! Dates as text: year, month and day with hyphens between them. -/

namespace RecordFilter.Date

open Calendar

/-- A year has four digits at least, and a sign outside the years that four digits can write. -/
def yearChars (year : Int) : List Char :=
  if 0 ≤ year ∧ year ≤ 9999 then Numeral.padded 4 year.natAbs
  else (if year < 0 then '-' else '+') :: Numeral.padded 4 year.natAbs

/-- The characters of a date. -/
def chars (date : Date) : List Char :=
  yearChars date.year ++ '-' :: Numeral.padded 2 date.month ++ '-' :: Numeral.padded 2 date.day

/-- A date as text. -/
def text (date : Date) : String :=
  String.ofList date.chars

/-- Reads year, month and day, with white space allowed before each number. -/
def scan : Scan Date := do
  let year ← Scan.year
  Scan.oneOf ['-']
  let month ← Scan.padded 2
  Scan.oneOf ['-']
  let day ← Scan.padded 2
  of? year month day

/-- Reads a text that is a date and nothing else. -/
def read? (text : String) : Option Date :=
  Scan.whole scan text

/-- Reads year, month and day, with white space allowed before each hyphen too. -/
def scanLoose : Scan Date := do
  let year ← Scan.year
  Scan.blanks
  Scan.oneOf ['-']
  let month ← Scan.padded 2
  Scan.blanks
  Scan.oneOf ['-']
  let day ← Scan.padded 2
  of? year month day

/-- Reads a date in the looser form of stored values, after which white space may stand. -/
def readLoose? (text : String) : Option Date :=
  Scan.whole (do let date ← scanLoose; Scan.blanks; return date) text

end RecordFilter.Date
