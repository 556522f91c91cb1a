import VectorScene.Decimal.Reading

/-!
# Digits of other bases

Numbers written with the ten digits and the first six letters, in base sixteen and in smaller bases.

## Main definitions

* `hexDigits`, `paddedHex`: a number in lower-case hexadecimal digits
* `hexValue?`: the number a digit stands for
* `numberIn?`: the number a row of digits stands for in a base
-/

namespace VectorScene.Text

/-- The lower-case hexadecimal digits of a number. -/
def hexDigits (n : Nat) : List Char := Nat.toDigits 16 n

/-- Hexadecimal digits with leading zeros up to the given width. -/
def paddedHex (width n : Nat) : List Char :=
  let digits := hexDigits n
  List.replicate (width - digits.length) '0' ++ digits

/-- The number a hexadecimal digit stands for. -/
def hexValue? (c : Char) : Option Nat :=
  if Decimal.isDigit c then some (Decimal.digitValue c)
  else if 'a' ≤ c && c ≤ 'f' then some (c.toNat - 'a'.toNat + 10)
  else if 'A' ≤ c && c ≤ 'F' then some (c.toNat - 'A'.toNat + 10)
  else none

/-- Whether a character is a hexadecimal digit. -/
def isHexDigit (c : Char) : Bool := (hexValue? c).isSome

/-- The number a row of digits stands for in a base, if all of them are digits of that base. -/
def numberIn? (base : Nat) (digits : List Char) : Option Nat :=
  digits.foldl
    (fun n c => do return (← n) * base + (← (hexValue? c).filter (· < base)))
    (some 0)

end VectorScene.Text
