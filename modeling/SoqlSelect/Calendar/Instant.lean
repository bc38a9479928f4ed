import SoqlSelect.Calendar.Date

/-!
# Instants

An instant is a second since the start of 1970 in universal time and the nanoseconds after it. A leap
second follows the last second of a minute and has that second's number with a billion nanoseconds or
more. Instants are written to the millisecond (`format_date`).
-/

namespace SoqlSelect

structure Instant where
  seconds : Int
  nanos : Nat
  nanos_lt : nanos < 2000000000
  /-- A leap second follows the second 59 of a minute. This is an assumption: a billion nanoseconds or more
  after any other second could be written down as well, and those instants are left out. -/
  leap_at_end : 1000000000 ≤ nanos → seconds % 60 = 59
deriving DecidableEq

namespace Instant

/-- The instant, if the nanoseconds are in range and a leap second is where one may be. -/
def of? (seconds : Int) (nanos : Nat) : Option Instant :=
  if h : nanos < 2000000000 ∧ (1000000000 ≤ nanos → seconds % 60 = 59) then
    some ⟨seconds, nanos, h.1, h.2⟩
  else none

/-- The first instant of a day. -/
def ofDate (d : Date) : Instant :=
  ⟨d.toDays * 86400, 0, by decide, by omega⟩

def isLeapSecond (t : Instant) : Bool := 1000000000 ≤ t.nanos

def date (t : Instant) : Date := Date.ofDays (t.seconds / 86400)

def hour (t : Instant) : Nat := (t.seconds % 86400 / 3600).toNat

def minute (t : Instant) : Nat := (t.seconds % 3600 / 60).toNat

/-- The second of the minute, which is 60 for a leap second. -/
def second (t : Instant) : Nat := (t.seconds % 60).toNat + t.nanos / 1000000000

def millisecond (t : Instant) : Nat := t.nanos % 1000000000 / 1000000

/-! ### Text -/

/-- The decimal digits of a number, with zeros in front up to a width. -/
def padded (width n : Nat) : List Char :=
  let digits := Nat.toDigits 10 n
  List.replicate (width - digits.length) '0' ++ digits

/-- Four digits for the years from 0 to 9999, and a sign before at least four digits for others. -/
def yearText (year : Int) : List Char :=
  if 0 ≤ year ∧ year ≤ 9999 then padded 4 year.natAbs
  else (if year < 0 then '-' else '+') :: padded 4 year.natAbs

/-- The characters of a text such as `2024-02-29T23:59:59.999Z`. -/
def chars (t : Instant) : List Char :=
  yearText t.date.year ++ '-' :: padded 2 t.date.month ++ '-' :: padded 2 t.date.day ++
    'T' :: padded 2 t.hour ++ ':' :: padded 2 t.minute ++ ':' :: padded 2 t.second ++
    '.' :: padded 3 t.millisecond ++ ['Z']

def text (t : Instant) : String := String.ofList t.chars

end Instant

end SoqlSelect
