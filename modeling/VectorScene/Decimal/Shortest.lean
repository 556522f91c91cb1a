import VectorScene.Decimal.Binary

/-!
# Shortest decimal digits

The decimal written for a float has the fewest digits that still read back as that float, and is the
nearest to it among those. It is found on the grids of `1, 2, … 17` significant digits: if any point
of a grid reads back as the float, one of the two grid points around the float does.

## Main definitions

* `Digits`: the number `value * 10 ^ exponent`
* `Interval`: the reals that read back as a given float
* `shortest`: the shortest digits of a positive finite float
-/

namespace VectorScene.Decimal

/-- The number `value * 10 ^ exponent`. -/
structure Digits where
  value : Nat
  exponent : Int
deriving Repr, DecidableEq

namespace Digits

/-- The characters of `value`. -/
def chars (d : Digits) : List Char := Nat.toDigits 10 d.value

/-- Ten times a value with one power of ten less is the same number, so trailing zeros go. The fuel
is the number of digits. -/
def dropZerosAux : Nat → Digits → Digits
  | 0, d => d
  | fuel + 1, d =>
    if d.value ≠ 0 ∧ d.value % 10 = 0 then dropZerosAux fuel ⟨d.value / 10, d.exponent + 1⟩ else d

/-- The same number without trailing zeros in its value. -/
def dropZeros (d : Digits) : Digits := dropZerosAux d.chars.length d

/-- The power of ten of the first digit. -/
def leading (d : Digits) : Int := d.exponent + d.chars.length - 1

end Digits

/-- The exponent `e` with `10 ^ e ≤ x < 10 ^ (e + 1)`, for a positive `x`. -/
def Fraction.log10 (x : Fraction) : Int :=
  if x.den ≤ x.num then
    (Nat.toDigits 10 (x.num / x.den)).length - 1
  else
    let places := (Nat.toDigits 10 (x.den / x.num)).length
    if x.den ≤ x.num * Nat.pow 10 (places - 1) then 1 - (places : Int) else -(places : Int)

/-- The reals between `low / den` and `high / den`, with the two ends if `closed`. -/
structure Interval where
  low : Nat
  high : Nat
  den : Nat
  closed : Bool
deriving Repr, DecidableEq

namespace Interval

/-- The reals that round to the float `mantissa * 2 ^ exponent`: up to half-way to its neighbours,
of which the lower one is only half as far away if the mantissa is the least of its exponent. A
half-way point goes to the even mantissa. -/
def ofBinary (mantissa : Nat) (exponent : Int) : Interval :=
  let narrow := mantissa = hiddenBit ∧ exponent ≠ -1074
  let high := Fraction.ofBinary (4 * mantissa + 2) (exponent - 2)
  let low := Fraction.ofBinary (4 * mantissa - if narrow then 1 else 2) (exponent - 2)
  ⟨low.num, high.num, high.den, mantissa % 2 = 0⟩

/-- Whether a rational lies in the interval. -/
def contains (i : Interval) (x : Fraction) : Bool :=
  if i.closed then
    i.low * x.den ≤ x.num * i.den && x.num * i.den ≤ i.high * x.den
  else
    i.low * x.den < x.num * i.den && x.num * i.den < i.high * x.den

end Interval

/-- The point of the grid of `count` significant digits that reads back as the float, the nearer one
if both neighbours of the float do, and the even one of two equally near. -/
def onGrid (x : Fraction) (i : Interval) (count : Nat) : Option Digits :=
  let exponent := x.log10 - count + 1
  let scaled := x.shift (-exponent)
  let below := scaled.num / scaled.den
  let reads (n : Nat) : Bool := i.contains (Fraction.ofDecimal n exponent)
  match reads below, reads (below + 1) with
  | true, true => some ⟨scaled.round, exponent⟩
  | true, false => some ⟨below, exponent⟩
  | false, true => some ⟨below + 1, exponent⟩
  | false, false => none

/-- The shortest digits of `mantissa * 2 ^ exponent`, without trailing zeros. Seventeen digits
always suffice. -/
def shortest (mantissa : Nat) (exponent : Int) : Digits :=
  let x := Fraction.ofBinary mantissa exponent
  let i := Interval.ofBinary mantissa exponent
  match (List.range 17).findSome? fun n => onGrid x i (n + 1) with
  | some d => d.dropZeros
  | none => ⟨0, 0⟩

end VectorScene.Decimal
