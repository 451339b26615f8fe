/-! Dates of the Gregorian calendar, extended to years before its introduction. -/

namespace RecordFilter

namespace Date

/-- A leap year has one day more than others. -/
def isLeap (year : Int) : Bool :=
  -- Every fourth year is one, except that of full centuries only every fourth is.
  year % 4 == 0 && (year % 100 != 0 || year % 400 == 0)

/-- The number of days of a month. -/
def daysIn (year : Int) (month : Nat) : Nat :=
  if month = 2 then if isLeap year then 29 else 28
  else if month = 4 ∨ month = 6 ∨ month = 9 ∨ month = 11 then 30
  else 31

/-- The year, month and day name a day within the supported years. -/
abbrev Valid (year : Int) (month day : Nat) : Prop :=
  (-262143 ≤ year ∧ year ≤ 262142) ∧ (1 ≤ month ∧ month ≤ 12) ∧ (1 ≤ day ∧ day ≤ daysIn year month)

end Date

/-- A day of a supported year. -/
structure Date where
  year : Int
  month : Nat
  day : Nat
  valid : Date.Valid year month day
  deriving DecidableEq, Repr

namespace Date

/-- The date of a year, month and day, if there is one. -/
def of? (year : Int) (month day : Nat) : Option Date :=
  if valid : Valid year month day then some ⟨year, month, day, valid⟩ else none

/-- Orders dates by year, then by month, then by day. -/
def compare (left right : Date) : Ordering :=
  (Ord.compare left.year right.year).then <|
    (Ord.compare left.month right.month).then <| Ord.compare left.day right.day

/-- The following day, except after the last supported one. -/
def next? (date : Date) : Option Date :=
  -- The end of a month and the end of a year carry over.
  if date.day < daysIn date.year date.month then of? date.year date.month (date.day + 1)
  else if date.month < 12 then of? date.year (date.month + 1) 1
  else of? (date.year + 1) 1 1

/-- The preceding day, except before the first supported one. -/
def previous? (date : Date) : Option Date :=
  -- The start of a month and the start of a year borrow.
  if 1 < date.day then of? date.year date.month (date.day - 1)
  else if 1 < date.month then of? date.year (date.month - 1) (daysIn date.year (date.month - 1))
  else of? (date.year - 1) 12 31

end Date

end RecordFilter
