import VectorScene.Decimal.Shortest

/-!
# Reading decimals

The float nearest to a decimal, whatever its number of digits and its exponent.

## Main definitions

* `isDigit`, `digitValue`, `natOfDigits`: decimal digits as numbers
* `nearest`: the float nearest to `digits * 10 ^ exponent`
* `powerOfTen`: the float nearest to a power of ten
-/

namespace VectorScene.Decimal

/-- One of the ten ASCII digits. -/
def isDigit (c : Char) : Bool := '0' ≤ c && c ≤ '9'

/-- The number a digit stands for. -/
def digitValue (c : Char) : Nat := c.toNat - '0'.toNat

/-- The number a row of digits stands for, in the given base. -/
def natOfDigits (value : Char → Nat) (base : Nat) (digits : List Char) : Nat :=
  digits.foldl (fun n c => n * base + value c) 0

/-- The number a row of decimal digits stands for. -/
def natOfDecimal (digits : List Char) : Nat := natOfDigits digitValue 10 digits

@[simp] theorem natOfDecimal_nil : natOfDecimal [] = 0 := rfl

theorem natOfDecimal_append_singleton (digits : List Char) (c : Char) :
    natOfDecimal (digits ++ [c]) = natOfDecimal digits * 10 + digitValue c := by
  simp [natOfDecimal, natOfDigits]

/-- The float nearest to `digits * 10 ^ exponent`. No float lies beyond the two bounds on the power
of the first digit, so a huge exponent costs nothing. -/
def nearest (digits : Nat) (exponent : Int) : Float :=
  let leading := exponent + (Nat.toDigits 10 digits).length
  if digits = 0 ∨ leading < -330 then 0.0
  else if 310 < leading then Float.ofBits 0x7ff0000000000000
  else (Fraction.ofDecimal digits exponent).toFloat

/-- The float nearest to `10 ^ exponent`. -/
def powerOfTen (exponent : Nat) : Float := nearest 1 exponent

end VectorScene.Decimal
