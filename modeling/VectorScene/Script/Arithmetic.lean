import VectorScene.Decimal.Integer
import VectorScene.Decimal.Remainder
import VectorScene.Script.Fault
import VectorScene.Script.Operator
import VectorScene.Script.Value

/-!
# Arithmetic of scripts

What the operators do. Integers have 64 bits, and a result that does not fit is a fault; an integer
beside a float is a float. Values of different kinds are unequal, and none of them is less than the
other.

## Main definitions

* `Value.isSame`: equality
* `Value.order?`: which of two values is less
* `Operator.apply`: an operator on two values
* `Value.negate`, `Value.identity`, `Value.complement`: the operators with one operand
-/

namespace VectorScene.Script

namespace Value

/-- The float of a number. -/
def toFloat? : Value → Option Float
  | float x => some x
  | integer i => some (Decimal.ofInt i.toInt)
  | _ => none

/-- The text of a string or a character. -/
def toText? : Value → Option String
  | string s => some s
  | char c => some (String.ofList [c])
  | _ => none

mutual

/-- Whether two values are equal. -/
def isSame : Value → Value → Bool
  | unit, unit => true
  | bool a, bool b => a == b
  | integer a, integer b => a == b
  | integer a, float y => Decimal.ofInt a.toInt == y
  | float x, integer b => x == Decimal.ofInt b.toInt
  | float x, float y => x == y
  | char a, char b => a == b
  | char a, string b => String.ofList [a] == b
  | string a, char b => a == String.ofList [b]
  | string a, string b => a == b
  | array a, array b => areSame a b
  | map a, map b => areSameMembers a b
  | range a b closed, range c d closed' => a == c && b == d && closed == closed'
  | _, _ => false

/-- Whether items are equal one by one. -/
def areSame : List Value → List Value → Bool
  | [], [] => true
  | a :: as, b :: bs => isSame a b && areSame as bs
  | _, _ => false

/-- Whether members are equal one by one. -/
def areSameMembers : List (String × Value) → List (String × Value) → Bool
  | [], [] => true
  | (name, a) :: as, (name', b) :: bs => name == name' && isSame a b && areSameMembers as bs
  | _, _ => false

end

/-- Whether two values can be compared, and then whether the first is less and whether the two are
equal. Floats that are no numbers are neither. -/
def order? (a b : Value) : Option (Bool × Bool) :=
  match a, b with
  | integer a, integer b => some (a < b, a == b)
  | _, _ =>
    match a.toFloat?, b.toFloat? with
    | some x, some y => some (x < y, x == y)
    | _, _ =>
      match a.toText?, b.toText? with
      | some s, some t => some (s < t, s == t)
      | _, _ => none

end Value

/-- Whether two values are of one kind whose values have no order. -/
def isUnordered : Value → Value → Bool
  | .bool _, .bool _ | .array _, .array _ | .map _, .map _ | .range .., .range .. => true
  | _, _ => false

/-- A result in 64 bits. -/
def fitting (i : Int) : Except Fault Value :=
  match Decimal.toInt64? i with
  | some n => .ok (.integer n)
  | none => .error .overflow

/-- A power of an integer. Exponents are neither negative nor of more than 32 bits. -/
def integerPower (base exponent : Int) : Except Fault Value :=
  if exponent < 0 ∨ UInt32.size ≤ exponent then .error .overflow
  else if base = 0 ∨ base = 1 then .ok (.integer (if exponent = 0 then 1 else Int64.ofInt base))
  else if base = -1 then .ok (.integer (if exponent % 2 = 0 then 1 else -1))
  else if 63 < exponent then .error .overflow
  else fitting (Int.pow base exponent.toNat)

/-- The bits of an integer moved to the left, or to the right if the distance is negative. -/
def shifted (i distance : Int) : Int64 :=
  if 63 < distance then 0
  else if 0 ≤ distance then Int64.ofInt (i * Nat.pow 2 distance.toNat)
  else if distance < -63 then if i < 0 then -1 else 0
  else Int64.ofInt (i.fdiv (Nat.pow 2 distance.natAbs))

namespace Operator

/-- An operator on two integers. -/
def onIntegers (o : Operator) (a b : Int64) : Except Fault Value :=
  let x := a.toInt
  let y := b.toInt
  match o with
  | add => fitting (x + y)
  | subtract => fitting (x - y)
  | multiply => fitting (x * y)
  | divide => if y = 0 then .error .divisionByZero else fitting (x.tdiv y)
  | remainder =>
    if y = 0 then .error .divisionByZero
    else if a = Int64.minValue ∧ y = -1 then .error .overflow
    else fitting (x.tmod y)
  | power => integerPower x y
  | shiftLeft => .ok (.integer (shifted x y))
  | shiftRight => .ok (.integer (shifted x (-y)))
  | bitAnd => .ok (.integer (a &&& b))
  | bitOr => .ok (.integer (a ||| b))
  | bitXor => .ok (.integer (a ^^^ b))
  | upTo => .ok (.range a b false)
  | through => .ok (.range a b true)
  | _ => .error (.operands o.text)

/-- An operator on two floats. -/
def onFloats (o : Operator) (x y : Float) : Except Fault Value :=
  match o with
  | add => .ok (.float (x + y))
  | subtract => .ok (.float (x - y))
  | multiply => .ok (.float (x * y))
  | divide => .ok (.float (x / y))
  | remainder => .ok (.float (Decimal.remainder x y))
  | power => .ok (.float (x.pow y))
  | _ => .error (.operands o.text)

/-- An operator on two truth values. -/
def onTruths (o : Operator) (a b : Bool) : Except Fault Value :=
  match o with
  | bitAnd => .ok (.bool (a && b))
  | bitOr => .ok (.bool (a || b))
  | bitXor => .ok (.bool (a != b))
  | _ => .error (.operands o.text)

/-- What is added to a text is appended in its printed form. -/
def joined? (a b : Value) : Option String :=
  match a, b with
  | .string s, v => some (s ++ v.display)
  | v, .string t => some (v.display ++ t)
  | .char c, .char d => some (String.ofList [c, d])
  | _, _ => none

/-- An operator that calculates. -/
def calculate (o : Operator) (a b : Value) : Except Fault Value :=
  match a, b with
  | .integer i, .integer j => o.onIntegers i j
  | .bool p, .bool q => o.onTruths p q
  | _, _ =>
    match a.toFloat?, b.toFloat? with
    | some x, some y => o.onFloats x y
    | _, _ =>
      match o, a, b with
      | add, .array as, .array bs => .ok (.array (as ++ bs))
      | add, _, _ =>
        match joined? a b with
        | some s => .ok (.string s)
        | none => .error (.operands o.text)
      | _, _, _ => .error (.operands o.text)

/-- An operator that compares by order. -/
def compare (o : Operator) (a b : Value) (holds : Bool × Bool → Bool) : Except Fault Value :=
  if isUnordered a b then .error (.operands o.text)
  else .ok (.bool ((a.order? b).any holds))

/-- An operator on two values. -/
def apply (o : Operator) (a b : Value) : Except Fault Value :=
  match o with
  | equal => .ok (.bool (a.isSame b))
  | unequal => .ok (.bool (!a.isSame b))
  | less => o.compare a b fun (isLess, _) => isLess
  | lessEqual => o.compare a b fun (isLess, isEqual) => isLess || isEqual
  | greater => o.compare b a fun (isLess, _) => isLess
  | greaterEqual => o.compare b a fun (isLess, isEqual) => isLess || isEqual
  | _ => o.calculate a b

end Operator

namespace Value

/-- The value with the opposite sign. -/
def negate : Value → Except Fault Value
  | integer i => fitting (-i.toInt)
  | float x => .ok (.float (-x))
  | _ => .error (.operands "-")

/-- The value of a number with a plus sign. -/
def identity : Value → Except Fault Value
  | integer i => .ok (.integer i)
  | float x => .ok (.float x)
  | _ => .error (.operands "+")

/-- The opposite truth value. -/
def complement : Value → Except Fault Value
  | bool b => .ok (.bool (!b))
  | _ => .error (.operands "!")

end Value

end VectorScene.Script
