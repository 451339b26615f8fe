import RecordFilter.Calendar.Date.Text
import RecordFilter.Calendar.Timestamp

/-! Timestamps as text: the interchange form of dates and times, and looser forms for reading. -/

namespace RecordFilter.Timestamp

open Calendar

/-- A fraction of a second in three, six or nine places, as many as it needs, and none for zero. -/
def fractionChars (nanosecond : Nat) : List Char :=
  if nanosecond = 0 then []
  else if nanosecond % 1000000 = 0 then '.' :: Numeral.padded 3 (nanosecond / 1000000)
  else if nanosecond % 1000 = 0 then '.' :: Numeral.padded 6 (nanosecond / 1000)
  else '.' :: Numeral.padded 9 nanosecond

/-- The time of day, in which a leap second is second sixty. -/
def clockChars (time : Timestamp) : List Char :=
  let second := time.second.val
  let leap := time.nanosecond.val / 1000000000
  Numeral.padded 2 (second / 3600) ++ ':' :: Numeral.padded 2 (second / 60 % 60) ++
    ':' :: Numeral.padded 2 (second % 60 + leap) ++ fractionChars (time.nanosecond.val % 1000000000)

/-- Date and time of day, without an offset. -/
def localChars (time : Timestamp) : List Char :=
  time.date.chars ++ 'T' :: time.clockChars

/-- A timestamp with the offset of universal time in digits. -/
def text (time : Timestamp) : String :=
  String.ofList (time.localChars ++ ['+', '0', '0', ':', '0', '0'])

/-- A timestamp with the short name of universal time, as stored values hold it. -/
def storedText (time : Timestamp) : String :=
  String.ofList (time.localChars ++ ['Z'])

/-- The offset from universal time: its short name, or hours and minutes with a colon. -/
def scanOffset : Scan Int := do
  match ← get with
  | 'Z' :: rest => set rest; return 0
  | 'z' :: rest => set rest; return 0
  | _ => Scan.signedOffset (Scan.oneOf [':'])

/-- Reads the interchange form, in which every number has its full width. -/
def scanInterchange : Scan Timestamp := do
  -- The fields are judged only once all of them are read.
  let year ← Scan.number 4 4
  Scan.oneOf ['-']
  let month ← Scan.number 2 2
  Scan.oneOf ['-']
  let day ← Scan.number 2 2
  Scan.oneOf ['T', 't', ' ']
  let hour ← Scan.number 2 2
  Scan.oneOf [':']
  let minute ← Scan.number 2 2
  Scan.oneOf [':']
  let second ← Scan.number 2 2
  let nanosecond ← Scan.fraction
  let offset ← scanOffset
  let date ← Date.of? year month day
  let time ← of? date hour minute second nanosecond
  time.behind? offset

/-- Reads a time of day whose numbers may be short and have white space before them. -/
def scanClock (date : Date) : Scan Timestamp := do
  let hour ← Scan.padded 2
  Scan.oneOf [':']
  let minute ← Scan.padded 2
  Scan.oneOf [':']
  let second ← Scan.padded 2
  let nanosecond ← Scan.fraction
  of? date hour minute second nanosecond

/-- Reads date and time of day in universal time with a given separator. -/
def scanLocal (separator : Scan Unit) : Scan Timestamp := do
  let date ← Date.scan
  separator
  scanClock date

/-- Reads a timestamp: the interchange form, a date and a time in universal time, or a date alone. -/
def read? (text : String) : Option Timestamp :=
  -- A date alone stands for its midnight.
  Scan.whole scanInterchange text <|>
    Scan.whole (scanLocal (Scan.oneOf ['T'])) text <|>
    Scan.whole (scanLocal Scan.blanks) text <|>
    (Date.read? text).map midnight

/-- Colons and white space in any number. -/
def scanLooseColon : Scan Unit :=
  modify (List.dropWhile fun char => char == ':' || Text.isBlank char)

/-- The offset of a stored value: a short name of universal time, or a signed one loosely separated. -/
def scanLooseOffset : Scan Int := do
  match ← get with
  | 'Z' :: rest => set rest; return 0
  | 'z' :: rest => set rest; return 0
  | chars =>
    if (chars.take 3).map Char.toLower = ['u', 't', 'c'] then set (chars.drop 3); return 0
    else Scan.signedOffset scanLooseColon

/-- Reads a timestamp in the looser form of stored values. -/
def scanLoose : Scan Timestamp := do
  let date ← Date.scanLoose
  Scan.oneOf ['T', 't', ' ']
  let hour ← Scan.padded 2
  Scan.blanks
  Scan.oneOf [':']
  let minute ← Scan.padded 2
  Scan.blanks
  Scan.oneOf [':']
  let second ← Scan.padded 2
  let nanosecond ← Scan.fraction
  Scan.blanks
  let offset ← scanLooseOffset
  Scan.blanks
  let time ← of? date hour minute second nanosecond
  time.behind? offset

/-- Reads a stored timestamp. -/
def readLoose? (text : String) : Option Timestamp :=
  Scan.whole scanLoose text

end RecordFilter.Timestamp
