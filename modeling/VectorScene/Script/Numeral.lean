import VectorScene.Decimal.Reading
import VectorScene.Script.Token
import VectorScene.Text.Hexadecimal

/-!
# Numerals

A numeral is decimal or, behind `0x`, `0o` and `0b`, in one of three other bases. Underscores may
stand between its digits. A decimal with places or an exponent is a float, and so is an integer that
does not fit into 64 bits. A numeral of another base gives the 64 bits of its integer.

## Main definitions

* `digitSpan`: the digits at the start of a text
* `decimal`: a decimal numeral
* `inBase`: a numeral of another base
* `numeral`: any of them
-/

namespace VectorScene.Script

open Decimal (isDigit natOfDecimal nearest)

/-- The digits at the start of a text without the underscores among them, and the rest. -/
def digitSpan (isPart : Char → Bool) (text : List Char) : List Char × List Char :=
  let isIn (c : Char) : Bool := isPart c || c == '_'
  ((text.takeWhile isIn).filter (· != '_'), text.dropWhile isIn)

/-! ### Other bases -/

/-- The base that a letter behind a leading zero announces. -/
def base? : Char → Option Nat
  | 'x' | 'X' => some 16
  | 'o' | 'O' => some 8
  | 'b' | 'B' => some 2
  | _ => none

/-- A numeral in a base, behind the letter that announces it. -/
def inBase (base : Nat) (text : List Char) : Token × List Char :=
  let (digits, rest) := digitSpan (if base = 16 then Text.isHexDigit else isDigit) text
  match Text.numberIn? base digits with
  | some n =>
    if digits.isEmpty || UInt64.size ≤ n then (.unusable, rest)
    else (.integer (Int64.ofNat n), rest)
  | none => (.unusable, rest)

/-! ### Decimals -/

/-- The places of a decimal, if a point follows that is neither doubled nor the point of a member.
-/
def places (text : List Char) : Option (List Char) × List Char :=
  match text with
  | '.' :: c :: rest =>
    if isDigit c then
      let (digits, rest) := digitSpan isDigit (c :: rest)
      (some digits, rest)
    else if c == '_' || c == '.' || c.isAlpha then (none, text)
    else (some [], c :: rest)
  | _ => (none, text)

/-- The exponent of a decimal: whether it is negative, and its digits. -/
def exponent (text : List Char) : Option (Bool × List Char) × List Char :=
  match text with
  | 'e' :: c :: rest =>
    if isDigit c then
      let (digits, rest) := digitSpan isDigit (c :: rest)
      (some (false, digits), rest)
    else if c == '+' || c == '-' then
      let (digits, rest) := digitSpan isDigit rest
      (some (c == '-', digits), rest)
    else (none, text)
  | _ => (none, text)

/-- The float of a decimal with a sign. -/
def decimalFloat (negative : Bool) (whole places : List Char) (exponent : Int) : Float :=
  let x := nearest (natOfDecimal (whole ++ places)) (exponent - places.length)
  if negative then -x else x

/-- A decimal with a sign. -/
def decimal (negative : Bool) (text : List Char) : Token × List Char :=
  let (whole, rest) := digitSpan isDigit text
  let (fraction, rest) := places rest
  let (power, rest) := exponent rest
  match fraction, power with
  | none, none =>
    let n : Int := natOfDecimal whole
    (.ofInteger (if negative then -n else n) (decimalFloat negative whole [] 0), rest)
  | _, none => (.float (decimalFloat negative whole (fraction.getD []) 0), rest)
  | _, some (below, digits) =>
    if digits.isEmpty then (.unusable, rest)
    else
      let e : Int := natOfDecimal digits
      (.float (decimalFloat negative whole (fraction.getD []) (if below then -e else e)), rest)

/-- A numeral with a sign. Other bases have none. -/
def numeral (negative : Bool) (text : List Char) : Token × List Char :=
  match text with
  | '0' :: c :: rest =>
    match base? c with
    | some base => if negative then (.unusable, rest) else inBase base rest
    | none => decimal negative text
  | _ => decimal negative text

end VectorScene.Script
