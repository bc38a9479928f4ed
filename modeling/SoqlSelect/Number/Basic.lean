import SoqlSelect.Number.Shortest

/-!
# Numbers

A number is an integer of at most 64 bits, signed or unsigned, or a finite float. An integer and a float
are different numbers even when they have the same value. Numbers are written as JSON writes them, and a
float always shows that it is one by a fraction or an exponent.
-/

namespace SoqlSelect

/-- The integers that have 64 bits, with or without a sign. -/
abbrev Has64Bits (n : Int) : Prop := -0x8000000000000000 ≤ n ∧ n < 0x10000000000000000

inductive Number
  | int (n : Int) (range : Has64Bits n)
  | float (x : Binary64)
deriving DecidableEq

/-- A number as it is spelled: a sign, digits, and maybe a fraction and an exponent. -/
structure NumberLiteral where
  negative : Bool
  whole : List Char
  fraction : Option (List Char)
  exponent : Option Int
deriving DecidableEq

/-- The number written by decimal digits. -/
def digitsValue (ds : List Char) : Nat :=
  ds.foldl (fun n d => 10 * n + (d.toNat - '0'.toNat)) 0

namespace Number

/-- The integer, if it has 64 bits. -/
def ofInt? (n : Int) : Option Number :=
  if h : Has64Bits n then some (.int n h) else none

def ofUInt64 (n : UInt64) : Number :=
  .int n.toNat ⟨by omega, by have := n.toNat_lt; omega⟩

/-- The value as an unsigned integer of 64 bits. -/
def toUInt64? : Number → Option UInt64
  | .int n _ => if 0 ≤ n then some (UInt64.ofNat n.toNat) else none
  | .float _ => none

/-- Equality of numbers of the same kind. -/
def agrees : Number → Number → Bool
  | .int m _, .int n _ => m == n
  | .float x, .float y => x.agrees y
  | _, _ => false

/-! ### Text -/

/-- The digits and the position of the point after the first of them: `d.ddd · 10 ^ exponent`. The
plain notation serves the exponents from -5 to 15, and always has a fraction. -/
def layout (digits : List Char) (exponent : Int) : List Char :=
  if exponent < -5 ∨ 15 < exponent then
    let fraction := digits.drop 1
    digits.take 1 ++ (if fraction.isEmpty then [] else '.' :: fraction) ++
      ['e', if exponent < 0 then '-' else '+'] ++ Nat.toDigits 10 exponent.natAbs
  else if exponent < 0 then
    '0' :: '.' :: List.replicate (exponent.natAbs - 1) '0' ++ digits
  else
    let whole := exponent.toNat + 1
    let fraction := digits.drop whole
    digits.take whole ++ List.replicate (whole - digits.length) '0' ++
      '.' :: (if fraction.isEmpty then ['0'] else fraction)

/-- The text of a float without its sign. -/
def magnitudeText (x : Binary64) : List Char :=
  if x.magnitude = 0 then ['0', '.', '0']
  else
    let d := x.shortest
    let digits := Nat.toDigits 10 d.coefficient
    let stripped := (digits.reverse.dropWhile (· == '0')).reverse
    layout stripped (d.exponent + digits.length - 1)

/-- A sign if the number is negative, and its digits. -/
def intText (n : Int) : List Char :=
  (if n < 0 then ['-'] else []) ++ Nat.toDigits 10 n.natAbs

def text : Number → String
  | .int n _ => String.ofList (intText n)
  | .float x => String.ofList ((if x.negative then ['-'] else []) ++ magnitudeText x)

/-! ### Reading -/

/-- The decimal that a literal spells, without its sign. -/
def literalDecimal (l : NumberLiteral) : Decimal :=
  let fraction := l.fraction.getD []
  { coefficient := digitsValue (l.whole ++ fraction),
    exponent := l.exponent.getD 0 - fraction.length }

/-- The number that a literal stands for. Without fraction and exponent it is an integer, unless it has
more than 64 bits or is the negative zero; all else is the nearest float. A literal beyond the floats
stands for nothing. -/
def ofLiteral? (l : NumberLiteral) : Option Number :=
  let float := (Binary64.ofDecimal? l.negative (literalDecimal l)).map .float
  if l.fraction.isSome || l.exponent.isSome then float
  else
    let n : Int := digitsValue l.whole
    if l.negative then
      if n = 0 then float else (ofInt? (-n)).or float
    else (ofInt? n).or float

end Number

end SoqlSelect
