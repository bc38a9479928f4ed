import SoqlSelect.Calendar.Date
import SoqlSelect.Number.Basic
import SoqlSelect.Text.Characters
import SoqlSelect.Toml.Basic

/-!
# TOML numbers, dates and times

The values that are written without quotes. Underscores may stand between digits. An integer is looked
at closely only when its number is read, so some spellings without a number are integers all the same.
-/

namespace SoqlSelect.Toml

/-! ### Digits -/

/-- The digits without the underscores between them; there is at least one digit. -/
def ungrouped? (isDigit : Char → Bool) : List Char → Option (List Char)
  | [] => none
  | [c] => if isDigit c then some [c] else none
  | c :: '_' :: cs => if isDigit c then (ungrouped? isDigit cs).map (c :: ·) else none
  | c :: cs => if isDigit c then (ungrouped? isDigit cs).map (c :: ·) else none

/-- A decimal number, which has no zero in front. -/
def decimalDigits? (cs : List Char) : Option (List Char) := do
  let ds ← ungrouped? Char.isDigit cs
  guard (ds.length = 1 ∨ ds.head? ≠ some '0')
  return ds

/-- A sign and what follows it. -/
def signed : List Char → Bool × List Char
  | '-' :: cs => (true, cs)
  | '+' :: cs => (false, cs)
  | cs => (false, cs)

/-! ### Integers -/

/-- The number that digits write in a base. -/
def inBase (base : Nat) (ds : List Char) : Nat :=
  ds.foldl (fun n d => base * n + (Text.hexDigit? d).getD 0) 0

def isDigitIn (base : Nat) (c : Char) : Bool :=
  (Text.hexDigit? c).any (· < base)

/-- The digits after the letter of a base. Without any there is no number. -/
def digitsInBase? (base : Nat) (cs : List Char) : Option (Option Nat) :=
  if cs.isEmpty then some none
  else (ungrouped? (isDigitIn base) cs).map fun ds => some (inBase base ds)

/-- Every underscore stands between two digits of any base. -/
def isGrouped (afterDigit : Bool) : List Char → Bool
  | [] => true
  | '_' :: cs => afterDigit && cs.head?.any (isDigitIn 16) && isGrouped false cs
  | c :: cs => isGrouped (isDigitIn 16 c) cs

/-- The marks of a fraction and of an exponent. -/
def isFloatMark (c : Char) : Bool := c == '.' || c == 'e' || c == 'E'

/-- A decimal integer after its sign. It has no zero in front. Behind the first underscore may stand
whatever does not make it a float, but there is a number only if all are digits. -/
def decimalInteger? (cs : List Char) : Option (Option Nat) :=
  let tail := cs.dropWhile Char.isDigit
  let ds := cs.filter (· != '_')
  if cs.head?.any Char.isDigit && (cs.head? != some '0' || cs.length == 1) &&
      (tail.isEmpty || tail.head? == some '_') && isGrouped false cs && !tail.any isFloatMark then
    some (if ds.all Char.isDigit then some (digitsValue ds) else none)
  else none

/-- The number of an integer, if the word is one. -/
def integer? : List Char → Option (Option Int)
  | '0' :: 'x' :: cs => (digitsInBase? 16 cs).map (·.map Int.ofNat)
  | '0' :: 'o' :: cs => (digitsInBase? 8 cs).map (·.map Int.ofNat)
  | '0' :: 'b' :: cs => (digitsInBase? 2 cs).map (·.map Int.ofNat)
  | cs =>
    let (negative, cs) := signed cs
    (decimalInteger? cs).map (·.map fun n => if negative then -(n : Int) else n)

/-! ### Floats -/

/-- The exponent after its letter. -/
def exponent? (cs : List Char) : Option Int :=
  let (negative, cs) := signed cs
  (ungrouped? Char.isDigit cs).map fun ds =>
    if negative then -(digitsValue ds : Int) else digitsValue ds

/-- A float has a fraction or an exponent, or is one of the names for no finite number. -/
def float? (cs : List Char) : Option Value := do
  let (negative, cs) := signed cs
  if cs = ['i', 'n', 'f'] ∨ cs = ['n', 'a', 'n'] then return .float true
  let isMark := fun c => c == 'e' || c == 'E'
  let mantissa := cs.takeWhile (!isMark ·)
  let exponentPart := cs.dropWhile (!isMark ·)
  let exponent ← if exponentPart.isEmpty then pure 0 else exponent? (exponentPart.drop 1)
  let whole ← decimalDigits? (mantissa.takeWhile (· != '.'))
  let fractionPart := mantissa.dropWhile (· != '.')
  guard !(exponentPart.isEmpty && fractionPart.isEmpty)
  let fraction ← if fractionPart.isEmpty then pure []
    else ungrouped? Char.isDigit (fractionPart.drop 1)
  let decimal : Decimal :=
    { coefficient := digitsValue (whole ++ fraction), exponent := exponent - fraction.length }
  return .float (Binary64.ofDecimal? negative decimal).isSome

/-! ### Dates and times -/

/-- Exactly `n` digits, their number and the rest. -/
def digits? (n : Nat) (cs : List Char) : Option (Nat × List Char) :=
  let ds := cs.take n
  if ds.length = n ∧ ds.all Char.isDigit then some (digitsValue ds, cs.drop n) else none

def after? (mark : Char) : List Char → Option (List Char)
  | c :: cs => if c = mark then some cs else none
  | [] => none

/-- What follows a date. -/
def afterDate? (cs : List Char) : Option (List Char) := do
  let (year, cs) ← digits? 4 cs
  let (month, cs) ← digits? 2 (← after? '-' cs)
  let (day, cs) ← digits? 2 (← after? '-' cs)
  guard (Date.isValid { year, month, day })
  return cs

/-- What follows the seconds and their fraction, if they are there. The last second of a minute may be
a leap second. -/
def afterSeconds? : List Char → Option (List Char)
  | ':' :: cs => do
    let (second, cs) ← digits? 2 cs
    guard (second ≤ 60)
    match cs with
    | '.' :: cs =>
      guard !(cs.takeWhile Char.isDigit).isEmpty
      return cs.dropWhile Char.isDigit
    | cs => return cs
  | cs => some cs

/-- What follows a time of day. -/
def afterTime? (cs : List Char) : Option (List Char) := do
  let (hour, cs) ← digits? 2 cs
  let (minute, cs) ← digits? 2 (← after? ':' cs)
  guard (hour ≤ 23 ∧ minute ≤ 59)
  afterSeconds? cs

/-- An offset from universal time, or nothing. -/
def isOffset (cs : List Char) : Bool :=
  match cs with
  | [] => true
  | ['Z'] | ['z'] => true
  | sign :: cs =>
    (sign == '+' || sign == '-') && (do
      let (hour, cs) ← digits? 2 cs
      let (minute, cs) ← digits? 2 (← after? ':' cs)
      return cs.isEmpty && hour ≤ 23 && minute ≤ 59 : Option Bool) == some true

/-- A date, a time, or both and maybe an offset. -/
def isDateTime (cs : List Char) : Bool :=
  match afterDate? cs with
  | some [] => true
  | some (separator :: cs) =>
    (separator == 'T' || separator == 't' || separator == ' ') &&
      (afterTime? cs).any isOffset
  | none => afterTime? cs == some []

/-! ### Words -/

/-- The value that a word without quotes stands for. -/
def ofWord? (word : List Char) : Option Value :=
  if word = ['t', 'r', 'u', 'e'] then some (.boolean true)
  else if word = ['f', 'a', 'l', 's', 'e'] then some (.boolean false)
  else if isDateTime word then some .dateTime
  else ((integer? word).map .integer).or (float? word)

end SoqlSelect.Toml
