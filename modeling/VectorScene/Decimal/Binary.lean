/-!
# Binary values of floats

A 64-bit float is not a number, an infinity, or a sign and a magnitude `mantissa * 2 ^ exponent`.
Everything that writes or reads decimal text works on that magnitude in exact natural-number
arithmetic.

## Main definitions

* `Binary`: the three kinds of float
* `Binary.ofFloat`: the decoding of a float's bits
* `Fraction`: a positive rational as numerator and denominator
* `Fraction.toFloat`: the float nearest to a rational, ties to the even mantissa
* `ofInt`: the float nearest to an integer
-/

namespace VectorScene.Decimal

/-- What the bits of a float stand for. A finite one is `± mantissa * 2 ^ exponent`. -/
inductive Binary where
  | notANumber
  | infinite (negative : Bool)
  | finite (negative : Bool) (mantissa : Nat) (exponent : Int)
deriving Repr, DecidableEq

/-- The leading bit of a mantissa, which a normal number does not store. -/
def hiddenBit : Nat := Nat.pow 2 52

/-- The kind of float with these 64 bits. A zero exponent field marks the subnormal numbers, whose
mantissa has no hidden bit. -/
def Binary.ofBits (bits : Nat) : Binary :=
  let negative := bits / Nat.pow 2 63 % 2 == 1
  let field : Nat := bits / hiddenBit % 2048
  let fraction : Nat := bits % hiddenBit
  if field = 2047 then
    if fraction = 0 then .infinite negative else .notANumber
  else if field = 0 then
    .finite negative fraction (-1074)
  else
    .finite negative (hiddenBit + fraction) ((field : Int) - 1075)

/-- The kind of the float `x`. -/
def Binary.ofFloat (x : Float) : Binary := ofBits x.toBits.toNat

/-- A nonnegative rational number. -/
structure Fraction where
  num : Nat
  den : Nat
deriving Repr, DecidableEq

namespace Fraction

/-- The magnitude `mantissa * 2 ^ exponent`. -/
def ofBinary (mantissa : Nat) (exponent : Int) : Fraction :=
  if 0 ≤ exponent then ⟨mantissa * Nat.pow 2 exponent.toNat, 1⟩
  else ⟨mantissa, Nat.pow 2 (-exponent).toNat⟩

/-- The number `digits * 10 ^ exponent`. -/
def ofDecimal (digits : Nat) (exponent : Int) : Fraction :=
  if 0 ≤ exponent then ⟨digits * Nat.pow 10 exponent.toNat, 1⟩
  else ⟨digits, Nat.pow 10 (-exponent).toNat⟩

/-- The rational times `10 ^ exponent`. -/
def shift (x : Fraction) (exponent : Int) : Fraction :=
  if 0 ≤ exponent then ⟨x.num * Nat.pow 10 exponent.toNat, x.den⟩
  else ⟨x.num, x.den * Nat.pow 10 (-exponent).toNat⟩

/-- The nearest integer; a number half-way between two goes to the even one. -/
def round (x : Fraction) : Nat :=
  let q := x.num / x.den
  let r := x.num % x.den
  if 2 * r < x.den then q
  else if x.den < 2 * r then q + 1
  else if q % 2 = 0 then q else q + 1

/-- The exponent `e` with `2 ^ e ≤ x < 2 ^ (e + 1)`, for a positive `x`. -/
def log2 (x : Fraction) : Int :=
  let guess : Int := (Nat.log2 x.num : Int) - (Nat.log2 x.den : Int)
  let reached : Bool :=
    if 0 ≤ guess then x.den * Nat.pow 2 guess.toNat ≤ x.num
    else x.den ≤ x.num * Nat.pow 2 (-guess).toNat
  if reached then guess else guess - 1

/-- The bits of the float nearest to `x`; the bit pattern of infinity if `x` is too large. The
exponent field and the mantissa are one number here, so a mantissa that rounds up to the next power
of two carries into the exponent. -/
def toBits (x : Fraction) : Nat :=
  if x.num = 0 ∨ x.den = 0 then 0
  else
    let unit := max (x.log2 - 52) (-1074)
    let mantissa :=
      if 0 ≤ unit then round ⟨x.num, x.den * Nat.pow 2 unit.toNat⟩
      else round ⟨x.num * Nat.pow 2 (-unit).toNat, x.den⟩
    min ((unit + 1074).toNat * hiddenBit + mantissa) (2047 * hiddenBit)

/-- The float nearest to `x`, ties to the even mantissa. -/
def toFloat (x : Fraction) : Float := Float.ofBits (UInt64.ofNat x.toBits)

end Fraction

/-- The float nearest to an integer. -/
def ofInt (i : Int) : Float :=
  let magnitude := (Fraction.mk i.natAbs 1).toFloat
  if i < 0 then -magnitude else magnitude

/-- Whether a float is a number. -/
def isFinite (x : Float) : Bool :=
  match Binary.ofFloat x with
  | .finite .. => true
  | _ => false

/-- The integer a float is equal to, if there is one. -/
def toInt? (x : Float) : Option Int :=
  match Binary.ofFloat x with
  | .finite negative mantissa exponent =>
    let magnitude := Fraction.ofBinary mantissa exponent
    if magnitude.num % magnitude.den = 0 then
      let n : Int := magnitude.num / magnitude.den
      some (if negative then -n else n)
    else none
  | _ => none

end VectorScene.Decimal
