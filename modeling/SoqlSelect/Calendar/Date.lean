/-!
# Dates

Days of the proleptic Gregorian calendar, which has a year zero, and their count from 1970-01-01 on. The
count goes by years that begin in March, so that a leap day is the last day of its year, and by cycles
of 400 years, which all have 146097 days.
-/

namespace SoqlSelect

structure Date where
  year : Int
  month : Nat
  day : Nat
deriving DecidableEq

namespace Date

def isLeapYear (year : Int) : Bool :=
  year % 4 == 0 && (year % 100 != 0 || year % 400 == 0)

/-- The number of days of a month; none for a number that is not a month. -/
def daysInMonth (year : Int) : Nat → Nat
  | 2 => if isLeapYear year then 29 else 28
  | 4 | 6 | 9 | 11 => 30
  | 1 | 3 | 5 | 7 | 8 | 10 | 12 => 31
  | _ => 0

/-- The calendar has such a day. -/
def isValid (d : Date) : Bool :=
  1 ≤ d.day && d.day ≤ daysInMonth d.year d.month

/-- The days from 0000-03-01 to 1970-01-01. -/
def epoch : Int := 719468

/-- The number of days since 1970-01-01. -/
def toDays (d : Date) : Int :=
  let year := if d.month ≤ 2 then d.year - 1 else d.year
  let month : Int := if d.month ≤ 2 then d.month + 9 else d.month - 3
  let yearOfCycle := year % 400
  let dayOfYear := (153 * month + 2) / 5 + d.day - 1
  let dayOfCycle := 365 * yearOfCycle + yearOfCycle / 4 - yearOfCycle / 100 + dayOfYear
  year / 400 * 146097 + dayOfCycle - epoch

/-- The day with that number. -/
def ofDays (n : Int) : Date :=
  let dayOfCycle := (n + epoch) % 146097
  let yearOfCycle :=
    (dayOfCycle - dayOfCycle / 1460 + dayOfCycle / 36524 - dayOfCycle / 146096) / 365
  let dayOfYear := dayOfCycle - (365 * yearOfCycle + yearOfCycle / 4 - yearOfCycle / 100)
  let month := (5 * dayOfYear + 2) / 153
  let year := (n + epoch) / 146097 * 400 + yearOfCycle
  { year := if month < 10 then year else year + 1,
    month := (if month < 10 then month + 3 else month - 9).toNat,
    day := (dayOfYear - (153 * month + 2) / 5 + 1).toNat }

end Date

end SoqlSelect
