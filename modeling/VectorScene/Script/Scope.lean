import VectorScene.Script.Fault
import VectorScene.Script.Value

/-!
# Variables

The variables of a script, the innermost first. A name stands for the innermost variable of that
name.

## Main definitions

* `Variable`, `Scope`: a variable, and all that are known
* `Scope.get`, `Scope.put`: the part of a variable that a row of keys leads to, read and changed
-/

namespace VectorScene.Script

/-- A variable. -/
structure Variable where
  name : String
  value : Value
  isConstant : Bool := false

/-- The variables that are known, the innermost first. -/
abbrev Scope := List Variable

namespace Scope

/-- The variable of a name. -/
def find? (s : Scope) (name : String) : Option Variable := List.find? (·.name == name) s

/-- The variables with another value for the one of a name. -/
def replace (name : String) (v : Value) : Scope → Scope
  | [] => []
  | first :: rest =>
    if first.name = name then { first with value := v } :: rest else first :: replace name v rest

/-- The part of a variable. -/
def get (s : Scope) (name : String) (keys : List Key) : Except Fault Value :=
  match s.find? name with
  | none => .error (.unknownName name)
  | some x =>
    match x.value.reach? keys with
    | none => .error .noPart
    | some v => .ok v

/-- The variables with another value for a part of one, which must not be constant. -/
def put (s : Scope) (name : String) (keys : List Key) (v : Value) : Except Fault Scope :=
  match s.find? name with
  | none => .error (.unknownName name)
  | some x =>
    if x.isConstant then .error (.constant name)
    else match x.value.putAt? v keys with
      | none => .error .noPart
      | some whole => .ok (s.replace name whole)

end Scope

end VectorScene.Script
