import RecordFilter.Calendar.Date

/-! Points in time in coordinated universal time, leap seconds included. -/

namespace RecordFilter

/-- A second of a day and the nanoseconds since its start; a leap second is the second thousand million. -/
structure Timestamp where
  date : Date
  second : Fin 86400
  nanosecond : Fin 2000000000
  deriving DecidableEq, Repr

namespace Timestamp

/-- The start of a day. -/
def midnight (date : Date) : Timestamp :=
  ⟨date, 0, 0⟩

/-- Orders timestamps by date, then by second, then by nanosecond. -/
def compare (left right : Timestamp) : Ordering :=
  (left.date.compare right.date).then <|
    (Ord.compare left.second.val right.second.val).then <|
      Ord.compare left.nanosecond.val right.nanosecond.val

/-- The timestamp of a date and a time of day; second sixty is the leap second of a minute. -/
def of? (date : Date) (hour minute second nanosecond : Nat) : Option Timestamp :=
  -- A leap second is held as the second before it and a thousand million nanoseconds.
  let start := hour * 3600 + minute * 60 + min second 59
  let fraction := nanosecond + if second = 60 then 1000000000 else 0
  if within : (hour < 24 ∧ minute < 60 ∧ second ≤ 60 ∧ nanosecond < 1000000000) ∧
      start < 86400 ∧ fraction < 2000000000 then
    some ⟨date, ⟨start, within.2.1⟩, ⟨fraction, within.2.2⟩⟩
  else none

/-- The same reading of a clock that runs a number of seconds ahead, less than a day, taken back. -/
def behind? (time : Timestamp) (seconds : Int) : Option Timestamp :=
  -- The shift crosses midnight at most once.
  let moved : Int := time.second.val - seconds
  let date? := if moved < 0 then time.date.previous?
    else if 86400 ≤ moved then time.date.next?
    else some time.date
  date?.map fun date => ⟨date, Fin.ofNat 86400 (moved % 86400).toNat, time.nanosecond⟩

end Timestamp

end RecordFilter
