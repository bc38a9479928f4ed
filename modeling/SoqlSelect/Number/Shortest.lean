import SoqlSelect.Number.Binary64

/-!
# The shortest decimal of a float

Of the decimals that round to a given number, the one with the fewest digits is written, and of those
with equally few digits the nearest. A decimal with `n` digits is a point of the grid of multiples of a
power of ten, so only the two points of the grid around the number need to be looked at.
-/

namespace SoqlSelect.Binary64

/-- The decimals that round to a number form an interval; its ends belong to it when the significand is
even. Bounds are in units of `2 ^ exponent`. -/
structure Rounding where
  lower : Nat
  value : Nat
  upper : Nat
  closed : Bool
  exponent : Int

/-- The interval of a positive number. Below a power of two the numbers lie twice as dense. -/
def rounding (x : Binary64) : Rounding :=
  let m := x.significand
  let below := if m = hiddenBit ∧ -1074 < x.scale then 1 else 2
  { lower := 4 * m - below, value := 4 * m, upper := 4 * m + 2,
    closed := m % 2 == 0, exponent := x.scale - 2 }

namespace Rounding

/-- Factor that brings a bound to the common unit with multiples of `10 ^ grid`. -/
def boundFactor (r : Rounding) (grid : Int) : Nat :=
  powerOf 2 r.exponent.toNat * powerOf 10 (-grid).toNat

/-- Factor that brings a multiple of `10 ^ grid` to the common unit with the bounds. -/
def gridFactor (r : Rounding) (grid : Int) : Nat :=
  powerOf 10 grid.toNat * powerOf 2 (-r.exponent).toNat

/-- Whether `c · 10 ^ grid` rounds to the number. -/
def contains (r : Rounding) (grid : Int) (c : Nat) : Bool :=
  let point := c * r.gridFactor grid
  let lower := r.lower * r.boundFactor grid
  let upper := r.upper * r.boundFactor grid
  if r.closed then lower ≤ point && point ≤ upper else lower < point && point < upper

/-- The point of the grid that stands for the number, if one of the two around it does: the nearer one
if both do, and the even one if they are equally near. -/
def onGrid? (r : Rounding) (grid : Int) : Option Nat :=
  let value := r.value * r.boundFactor grid
  let unit := r.gridFactor grid
  let c := value / unit
  let rest := value % unit
  match r.contains grid c, r.contains grid (c + 1) with
  | false, false => none
  | true, false => some c
  | false, true => some (c + 1)
  | true, true =>
    if 2 * rest < unit then some c
    else if unit < 2 * rest then some (c + 1)
    else some (c + c % 2)

end Rounding

/-- The exponent `k` with `10 ^ (k - 1) ≤ num / den < 10 ^ k`, for positive numbers. -/
def decimalPosition (num den : Nat) : Int :=
  let k : Int := (Nat.toDigits 10 num).length - (Nat.toDigits 10 den).length
  if num * powerOf 10 (-k).toNat < den * powerOf 10 k.toNat then k else k + 1

/-- The shortest decimal that rounds to a positive number. Seventeen digits always do, so the last
alternative is never taken. -/
def shortest (x : Binary64) : Decimal :=
  let r := x.rounding
  let position :=
    decimalPosition (x.significand * powerOf 2 x.scale.toNat) (powerOf 2 (-x.scale).toNat)
  let found := (List.range 17).findSome? fun i =>
    let grid := position - (i + 1 : Nat)
    (r.onGrid? grid).map fun c => { coefficient := c, exponent := grid : Decimal }
  found.getD ⟨0, 0⟩

end SoqlSelect.Binary64
