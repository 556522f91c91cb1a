/-!
# Operators

The operators between two operands, and how tightly they bind.

## Main definitions

* `Operator`: the operators
* `Operator.strength`: how tightly an operator binds
* `Operator.isRightBound`: whether operators of one strength are grouped from the right
-/

namespace VectorScene.Script

/-- The operators between two operands. -/
inductive Operator where
  | either
  | both
  | bitOr
  | bitXor
  | bitAnd
  | equal
  | unequal
  | less
  | lessEqual
  | greater
  | greaterEqual
  | upTo
  | through
  | add
  | subtract
  | multiply
  | divide
  | remainder
  | power
  | shiftLeft
  | shiftRight
deriving DecidableEq, Repr

namespace Operator

/-- How tightly an operator binds. -/
def strength : Operator → Nat
  | either | bitOr | bitXor => 30
  | both | bitAnd => 60
  | equal | unequal => 90
  | less | lessEqual | greater | greaterEqual => 130
  | upTo | through => 140
  | add | subtract => 150
  | multiply | divide | remainder => 180
  | power => 190
  | shiftLeft | shiftRight => 210

/-- Whether operators of this strength are grouped from the right. -/
def isRightBound : Operator → Bool
  | power => true
  | _ => false

/-- The text of an operator. -/
def text : Operator → String
  | either => "||"
  | both => "&&"
  | bitOr => "|"
  | bitXor => "^"
  | bitAnd => "&"
  | equal => "=="
  | unequal => "!="
  | less => "<"
  | lessEqual => "<="
  | greater => ">"
  | greaterEqual => ">="
  | upTo => ".."
  | through => "..="
  | add => "+"
  | subtract => "-"
  | multiply => "*"
  | divide => "/"
  | remainder => "%"
  | power => "**"
  | shiftLeft => "<<"
  | shiftRight => ">>"

end Operator

end VectorScene.Script
