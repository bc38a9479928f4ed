import SoqlSelect.Calendar.Date
import SoqlSelect.Number.Basic
import SoqlSelect.Text.Characters

/-!
# Text in the form of a date

A text has the form of an ISO 8601 date if it is a month, a day, or a day and a time of day with an
optional offset from universal time, in the extended notation. The form admits the decimal digits of
every script (`ISO_DATE_PATTERN`). The range of a part is checked where its digits are ASCII digits.
-/

namespace SoqlSelect

/-- The parts of a text in the form of a date, as they are written. A missing part has no characters. -/
structure IsoText where
  year : List Char
  month : List Char
  day : List Char := []
  hour : List Char := []
  minute : List Char := []
  second : List Char := []
  offset : List Char := []
deriving DecidableEq

namespace IsoText

/-! ### Form -/

/-- The first `n` characters if they are decimal digits, and the rest. -/
def digits? (n : Nat) (cs : List Char) : Option (List Char × List Char) :=
  let ds := cs.take n
  if ds.length = n ∧ ds.all Text.isDecimalDigit then some (ds, cs.drop n) else none

/-- What follows the first character if it is one of those marks. -/
def after? (isMark : Char → Bool) : List Char → Option (List Char)
  | [] => none
  | c :: cs => if isMark c then some cs else none

/-- What follows a fraction of a second, if there is one. -/
def afterFraction? : List Char → Option (List Char)
  | [] => some []
  | c :: cs =>
    if c = '.' ∨ c = ',' then
      if (cs.takeWhile Text.isDecimalDigit).isEmpty then none
      else some (cs.dropWhile Text.isDecimalDigit)
    else some (c :: cs)

/-- The minute and the second, as far as they are there, and the rest. -/
def minuteAndSecond? : List Char → Option ((List Char × List Char) × List Char)
  | ':' :: cs => do
    let (minute, cs) ← digits? 2 cs
    match cs with
    | ':' :: cs =>
      let (second, cs) ← digits? 2 cs
      return ((minute, second), ← afterFraction? cs)
    | cs => return ((minute, []), cs)
  | cs => some (([], []), cs)

/-- An offset is `Z`, or a sign, two digits for hours, and maybe two more for minutes after an optional
colon. -/
def isOffset : List Char → Bool
  | ['Z'] => true
  | sign :: cs =>
    (sign == '+' || sign == '-') &&
      match digits? 2 cs with
      | some (_, []) => true
      | some (_, ':' :: cs) => (digits? 2 cs).map (·.2) == some []
      | some (_, cs) => (digits? 2 cs).map (·.2) == some []
      | none => false
  | [] => false

/-- The parts of a text, if it has the form of a date. -/
def parse? (cs : List Char) : Option IsoText := do
  let (year, cs) ← digits? 4 cs
  let cs ← after? (· == '-') cs
  let (month, cs) ← digits? 2 cs
  if cs.isEmpty then some { year, month }
  else
    let cs ← after? (· == '-') cs
    let (day, cs) ← digits? 2 cs
    if cs.isEmpty then some { year, month, day }
    else
      let cs ← after? (fun c => c == 'T' || c == ' ') cs
      let (hour, cs) ← digits? 2 cs
      let ((minute, second), offset) ← minuteAndSecond? cs
      if offset.isEmpty || isOffset offset then
        some { year, month, day, hour, minute, second, offset }
      else none

/-! ### Range -/

/-- The number that ASCII digits write; nothing else writes one. -/
def number? (ds : List Char) : Option Nat :=
  if !ds.isEmpty && ds.all Char.isDigit then some (digitsValue ds) else none

/-- The calendar has the day. A day without a number counts as the first of the month. -/
def hasDay (t : IsoText) : Bool :=
  match number? t.year, number? t.month with
  | some year, some month =>
    Date.isValid { year := year, month := month, day := (number? t.day).getD 1 }
  | _, _ => false

/-- The clock has the time. Without a number for the hour there is nothing to check, and a minute or a
second without a number counts as zero. -/
def hasTime (t : IsoText) : Bool :=
  match number? t.hour with
  | none => true
  | some hour => hour < 24 && (number? t.minute).getD 0 < 60 && (number? t.second).getD 0 < 60

/-- Hours and minutes of the offset are in range (`is_valid_offset`). Without its colon the offset has the
hours in its first two bytes and the minutes in the next two; a window that cuts a character leaves the
minutes zero. -/
def hasOffset (t : IsoText) : Bool :=
  match t.offset with
  | [] => true
  | ['Z'] => true
  | _ :: cs =>
    let ds := cs.filter (· ≠ ':')
    let hours := (Text.byteWindow? 0 2 ds).bind number?
    let minutes := match Text.byteWindow? 2 2 ds with
      | none => some 0
      | some window => number? window
    match hours, minutes with
    | some h, some m => h ≤ 23 && m ≤ 59
    | _, _ => false

end IsoText

/-- The text has the form of a date, and its parts are in range (`is_iso_date`). -/
def isIsoDate (s : String) : Bool :=
  match IsoText.parse? s.toList with
  | none => false
  | some t => t.hasDay && t.hasTime && t.hasOffset

end SoqlSelect
