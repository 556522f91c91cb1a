import VectorScene.Json.Cursor
import VectorScene.Decimal.Integer
import VectorScene.Decimal.Reading

/-!
# Numbers of JSON text

A numeral is read in two steps: first its digits, then its value. A numeral without a point and an
exponent is an integer if it fits into 64 bits. Any other is a float: its leading digits, as many
as fit into 64 bits, scaled by a power of ten.

## Main definitions

* `Numeral`: the parts of a numeral
* `numeral`: reads the parts
* `Number`: the value of a numeral
* `number`: reads a value
-/

namespace VectorScene.Json

/-- The parts of a numeral. -/
structure Numeral where
  negative : Bool
  whole : List Char
  /-- The digits behind the point; none if there is no point. -/
  places : List Char
  /-- Whether the exponent is negative, and its digits. -/
  exponent : Option (Bool × List Char)
deriving Repr

/-- Reads a row of digits, which may be empty. -/
def digits (c : Cursor) : List Char × Cursor :=
  let row := c.rest.takeWhile Decimal.isDigit
  (row, c.skip row.length)

/-- Reads the digits before the point. Only a single zero may start with a zero. -/
def wholeDigits (atEnd : Cause) (c : Cursor) : Except Failure (List Char × Cursor) :=
  match c.rest with
  | [] => .error (.here atEnd c)
  | char :: rest =>
    if char = '0' then
      if (rest.head?.map Decimal.isDigit).getD false then .error (.ahead .badNumber c.next)
      else .ok (['0'], c.next)
    else if Decimal.isDigit char then .ok (digits c)
    else .error (.ahead .badNumber c)

/-- Reads the point and the digits behind it, of which there has to be one. -/
def placeDigits (atEnd : Cause) (c : Cursor) : Except Failure (List Char × Cursor) :=
  if c.rest.head? = some '.' then
    let (row, behind) := digits c.next
    if row.isEmpty then
      if behind.rest.isEmpty then .error (.here atEnd behind)
      else .error (.ahead .badNumber behind)
    else .ok (row, behind)
  else .ok ([], c)

/-- Reads the exponent, if there is one. -/
def exponentDigits (atEnd : Cause) (c : Cursor) :
    Except Failure (Option (Bool × List Char) × Cursor) :=
  if c.rest.head? = some 'e' ∨ c.rest.head? = some 'E' then
    let c := c.next
    let negative := c.rest.head? == some '-'
    let c := if negative ∨ c.rest.head? = some '+' then c.next else c
    let (row, behind) := digits c
    if row.isEmpty then
      if behind.rest.isEmpty then .error (.here atEnd behind)
      else .error (.ahead .badNumber behind)
    else .ok (some (negative, row), behind)
  else .ok (none, c)

/-- Reads the parts of a numeral. The cause is what is wrong when the text ends too early. -/
def numeral (atEnd : Cause) (c : Cursor) : Except Failure (Numeral × Cursor) := do
  let negative := c.rest.head? == some '-'
  let c := if negative then c.next else c
  let (whole, c) ← wholeDigits atEnd c
  let (places, c) ← placeDigits atEnd c
  let (exponent, c) ← exponentDigits atEnd c
  return (⟨negative, whole, places, exponent⟩, c)

/-- The value of a numeral. -/
inductive Number where
  | integer (value : Int)
  | float (value : Float)

/-- The largest significand. -/
def significandLimit : Nat := UInt64.size

/-- The significand with as many more digits as keep it below the limit, and how many digits are
left over. -/
def gather : Nat → List Char → Nat × Nat
  | n, [] => (n, 0)
  | n, c :: rest =>
    let m := n * 10 + Decimal.digitValue c
    if m < significandLimit then gather m rest else (n, rest.length + 1)

/-- A float divided by a power of ten that may lie beyond the floats. -/
def shrink (x : Float) (exponent : Nat) : Float :=
  if exponent ≤ 308 then x / Decimal.powerOfTen exponent
  else if x == 0.0 then x
  else shrink (x / Decimal.powerOfTen 308) (exponent - 308)
termination_by exponent
decreasing_by omega

/-- The float nearest to the significand, multiplied or divided by a power of ten. A product beyond
the floats has no value. -/
def scaled? (significand : Nat) (exponent : Int) : Option Float :=
  let x := Decimal.ofInt significand
  if exponent < 0 then some (shrink x exponent.natAbs)
  else if 308 < exponent then (if significand = 0 then some x else none)
  else
    let y := x * Decimal.powerOfTen exponent.toNat
    if Decimal.isFinite y then some y else none

/-- The largest exponent that is calculated with. -/
def exponentLimit : Nat := 2147483647

/-- How many digits it takes for the number of the digits to pass the limit. -/
def digitsBeyond (limit : Nat) : Nat → List Char → Option Nat
  | _, [] => none
  | n, c :: rest =>
    let m := n * 10 + Decimal.digitValue c
    if limit < m then some 1 else (digitsBeyond limit m rest).map (· + 1)

namespace Numeral

/-- Whether the numeral has neither point nor exponent. -/
def isWhole (n : Numeral) : Bool := n.places.isEmpty && n.exponent.isNone

/-- The significand and the power of ten it stands at, without the exponent. -/
def significand (n : Numeral) : Nat × Int :=
  let (whole, dropped) := gather 0 n.whole
  let (all, unused) := gather whole n.places
  (all, dropped - ((n.places.length - unused : Nat) : Int))

/-- The float with the sign of the numeral. -/
def signed (n : Numeral) (x : Float) : Float := if n.negative then -x else x

/-- The value of a numeral that is not an integer, or how many digits of the exponent had been read
when the number turned out too large; none of them if all had. -/
def float (n : Numeral) : Except (Option Nat) Float :=
  let (significand, power) := n.significand
  let result : Except (Option Nat) (Option Float) :=
    match n.exponent with
    | none => .ok (scaled? significand power)
    | some (negative, row) =>
      match digitsBeyond exponentLimit 0 row with
      | some read =>
        if significand = 0 ∨ negative then .ok (some 0.0) else .error (some read)
      | none =>
        let exponent : Int := Decimal.natOfDecimal row
        .ok (scaled? significand (if negative then power - exponent else power + exponent))
  match result with
  | .error read => .error read
  | .ok none => .error none
  | .ok (some x) => .ok (n.signed x)

/-- The integer of a numeral without point and exponent. Zero with a sign is a float. -/
def integer? (n : Numeral) : Option Int :=
  if n.isWhole then
    let value := Decimal.natOfDecimal n.whole
    if n.negative then
      if value = 0 then none else (Decimal.toInt64? (-(value : Int))).map Int64.toInt
    else if value < significandLimit then some value
    else none
  else none

end Numeral

/-- Reads a number. -/
def number (c : Cursor) : Except Failure (Number × Cursor) := do
  let (n, behind) ← numeral .endInValue c
  match n.integer? with
  | some i => return (.integer i, behind)
  | none =>
    match n.float with
    | .ok x => return (.float x, behind)
    | .error none => throw (.here .numberTooLarge behind)
    | .error (some read) =>
      let unread := ((n.exponent.map fun e => e.2.length).getD 0) - read
      let place : Position := ⟨behind.position.line, behind.position.column - unread⟩
      throw ⟨.numberTooLarge, some place, behind⟩

/-- Goes past a number, whatever its size. -/
def passNumber (c : Cursor) : Except Failure (Unit × Cursor) := do
  let (_, behind) ← numeral .badNumber c
  return ((), behind)

end VectorScene.Json
