/-!
# Faults of scripts

What stops a script that is well formed.

## Main definitions

* `Fault`: the faults
* `Fault.isCatchable`: whether a script can go on after a fault
* `Fault.message`: the words for a fault
-/

namespace VectorScene.Script

/-- What stops a script that is well formed. -/
inductive Fault where
  | unknownName (name : String)
  | unknownFunction (name : String) (arguments : Nat)
  | operands (operator : String)
  | overflow
  | divisionByZero
  | notTruth
  | noPart
  | constant (name : String)
  | notIterable
  | uncaught (text : String)
  /-- Functions call each other too deep. -/
  | tooDeep
  /-- The steps that a script may take are used up. -/
  | exhausted
deriving DecidableEq, Repr

namespace Fault

/-- Whether a script can go on after a fault. -/
def isCatchable : Fault → Bool
  | tooDeep | exhausted => false
  | _ => true

/-- The words for a fault. -/
def message : Fault → String
  | unknownName name => s!"there is no variable '{name}'"
  | unknownFunction name arguments => s!"there is no function '{name}' of {arguments} arguments"
  | operands operator => s!"'{operator}' does not apply to these operands"
  | overflow => "the result does not fit"
  | divisionByZero => "division by zero"
  | notTruth => "a condition is neither true nor false"
  | noPart => "there is no such part"
  | constant name => s!"'{name}' is constant"
  | notIterable => "these values cannot be gone through"
  | uncaught text => text
  | tooDeep => "functions call each other too deep"
  | exhausted => "the script takes too many steps"

end Fault

end VectorScene.Script
