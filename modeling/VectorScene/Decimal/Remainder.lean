import VectorScene.Decimal.Binary

/-!
# Remainders of floats

The remainder of a division that is rounded toward zero is exact: both magnitudes are whole
multiples of one power of two.

## Main definitions

* `remainder`: the remainder, with the sign of the dividend
-/

namespace VectorScene.Decimal

/-- The magnitude left of one number after taking away another as often as possible. -/
def magnitudeLeft (mantissa : Nat) (exponent : Int) (divisor : Nat) (divisorExponent : Int) :
    Fraction :=
  let unit := min exponent divisorExponent
  .ofBinary
    (mantissa * Nat.pow 2 (exponent - unit).toNat %
      (divisor * Nat.pow 2 (divisorExponent - unit).toNat))
    unit

/-- The remainder of a division, with the sign of the dividend. -/
def remainder (x y : Float) : Float :=
  match Binary.ofFloat x, Binary.ofFloat y with
  | .finite .., .infinite _ => x
  | .finite negative mantissa exponent, .finite _ divisor divisorExponent =>
    if divisor = 0 then 0.0 / 0.0
    else
      let left := (magnitudeLeft mantissa exponent divisor divisorExponent).toFloat
      if negative then -left else left
  | _, _ => 0.0 / 0.0

end VectorScene.Decimal
