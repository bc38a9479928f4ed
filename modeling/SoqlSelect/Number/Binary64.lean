/-!
# Floating-point numbers of 64 bits

A finite IEEE 754 number of the format binary64, and the number of that format nearest to a decimal.
All arithmetic is exact arithmetic on natural numbers.
-/

namespace SoqlSelect

/-- The power of a base. -/
def powerOf (base exponent : Nat) : Nat := Nat.pow base exponent

/-- The decimal `coefficient · 10 ^ exponent`. -/
structure Decimal where
  coefficient : Nat
  exponent : Int
deriving DecidableEq

/-- A finite number of the format binary64. The magnitude holds the eleven bits of the exponent and the
fifty-two bits of the fraction, as they stand in the format. -/
structure Binary64 where
  negative : Bool
  magnitude : Nat
  finite : magnitude < 0x7FF0000000000000
deriving DecidableEq

/-- What a bit pattern of the format may stand for beside a finite number. -/
inductive NonFinite
  | nan
  | infinity (negative : Bool)
deriving DecidableEq

namespace NonFinite

def text : NonFinite → String
  | .nan => "NaN"
  | .infinity false => "inf"
  | .infinity true => "-inf"

end NonFinite

namespace Binary64

/-- The number that a bit pattern stands for. -/
def ofBits (bits : UInt64) : Except NonFinite Binary64 :=
  let negative := 0x8000000000000000 ≤ bits.toNat
  let magnitude := bits.toNat % 0x8000000000000000
  if h : magnitude < 0x7FF0000000000000 then .ok ⟨negative, magnitude, h⟩
  else if magnitude = 0x7FF0000000000000 then .error (.infinity negative)
  else .error .nan

/-- Zero, with either sign. -/
def zero (negative : Bool) : Binary64 := ⟨negative, 0, by decide⟩

/-- Equality of the numbers: the two zeros are equal. -/
def agrees (x y : Binary64) : Bool :=
  x.magnitude == y.magnitude && (x.negative == y.negative || x.magnitude == 0)

/-! ### Significand and scale -/

/-- The leading bit of a significand, which the format does not store: `2 ^ 52`. -/
def hiddenBit : Nat := 0x10000000000000

/-- The number without its sign is `significand · 2 ^ scale`. -/
def significand (x : Binary64) : Nat :=
  if x.magnitude < hiddenBit then x.magnitude else hiddenBit + x.magnitude % hiddenBit

def scale (x : Binary64) : Int :=
  if x.magnitude < hiddenBit then -1074 else (x.magnitude / hiddenBit : Nat) - 1075

/-! ### Rounding a decimal -/

/-- The quotient rounded to the nearest natural number, a half to the even one. -/
def roundQuotient (num den : Nat) : Nat :=
  let q := num / den
  let r := num % den
  if 2 * r < den then q else if den < 2 * r then q + 1 else q + q % 2

/-- The exponent `e` with `2 ^ e ≤ num / den < 2 ^ (e + 1)`, for positive numbers. -/
def binaryExponent (num den : Nat) : Int :=
  let e : Int := (num.log2 : Int) - den.log2
  if den * powerOf 2 e.toNat ≤ num * powerOf 2 (-e).toNat then e else e - 1

/-- The magnitude nearest to a positive quotient; it may lie beyond the finite ones. -/
def nearestMagnitude (num den : Nat) : Nat :=
  let scale := max (-1074) (binaryExponent num den - 52)
  (scale + 1074).toNat * hiddenBit +
    roundQuotient (num * powerOf 2 (-scale).toNat) (den * powerOf 2 scale.toNat)

/-- The number nearest to a decimal, or none if that is beyond the finite numbers. The position of the
first digit settles the decimals that are far too large or too small before any power is taken. -/
def ofDecimal? (negative : Bool) (d : Decimal) : Option Binary64 :=
  let position := (Nat.toDigits 10 d.coefficient).length + d.exponent
  if d.coefficient = 0 ∨ position < -400 then some (zero negative)
  else if 400 < position then none
  else
    let magnitude :=
      nearestMagnitude (d.coefficient * powerOf 10 d.exponent.toNat)
        (powerOf 10 (-d.exponent).toNat)
    if h : magnitude < 0x7FF0000000000000 then some ⟨negative, magnitude, h⟩ else none

end Binary64

end SoqlSelect
