import VectorScene.Script.Operator
import VectorScene.Script.Value

/-!
# Syntax of scripts

A script is a row of statements, with the functions that it defines. A statement may have a value,
so statements may also stand where an expression is wanted.

## Main definitions

* `Expression`, `Statement`: what scripts are made of
* `Function`, `Program`: a function, and a script
* `Expression.isPure`, `Statement.isPure`: what has no effect but a value
* `Path`, `Expression.path?`: the parts of a variable that can be assigned to
-/

namespace VectorScene.Script

mutual

/-- The expressions. -/
inductive Expression where
  | literal (value : Value)
  /-- The texts of values one after another. -/
  | template (parts : List Expression)
  | array (items : List Expression)
  | map (names : List String) (values : List Expression)
  | named (name : String)
  | negate (operand : Expression)
  | identity (operand : Expression)
  | complement (operand : Expression)
  | apply (operator : Operator) (left right : Expression)
  /-- True if both operands are; the second counts only if the first is true. -/
  | both (left right : Expression)
  /-- True if one operand is; the second counts only if the first is false. -/
  | either (left right : Expression)
  | index (target position : Expression)
  | member (target : Expression) (name : String)
  | call (function : String) (arguments : List Expression)
  /-- A call in which the target stands in front. -/
  | method (target : Expression) (function : String) (arguments : List Expression)
  | statement (statement : Statement)

/-- The statements. -/
inductive Statement where
  | expression (expression : Expression)
  | declare (name : String) (isConstant : Bool) (value : Option Expression)
  /-- An assignment, which may combine the old value with an operator. -/
  | assign (target : Expression) (operator : Option Operator) (value : Expression)
  | block (body : List Statement)
  | branch (condition : Expression) (yes no : List Statement)
  | whilst (condition : Expression) (body : List Statement)
  | forever (body : List Statement)
  | each (name : String) (counter : Option String) (source : Expression) (body : List Statement)
  | leave (value : Option Expression)
  | skip
  | give (value : Option Expression)
  | raise (value : Option Expression)
  | attempt (body : List Statement) (name : Option String) (rescue : List Statement)

end

/-- A function of a script. -/
structure Function where
  name : String
  parameters : List String
  body : List Statement

/-- A script. -/
structure Program where
  functions : List Function
  body : List Statement
  /-- The number of its tokens. -/
  length : Nat

/-! ### Expressions and statements without effect -/

mutual

/-- Whether an expression is a constant, a variable, or put together from such without a call. -/
def Expression.isPure : Expression → Bool
  | .literal _ | .named _ => true
  | .template parts => arePure parts
  | .array items => arePure items
  | .map _ values => arePure values
  | .both left right | .either left right => left.isPure && right.isPure
  | .statement s => s.isPure
  | _ => false

/-- Whether all expressions are pure. -/
def arePure : List Expression → Bool
  | [] => true
  | e :: rest => e.isPure && arePure rest

/-- Whether a statement has no effect but its value. Loops without a bound may run forever, which is
an effect. -/
def Statement.isPure : Statement → Bool
  | .expression e => e.isPure
  | .block body => arePureStatements body
  | .branch condition yes no => condition.isPure && arePureStatements yes && arePureStatements no
  | .each _ _ source body => source.isPure && arePureStatements body
  | .attempt body _ _ => arePureStatements body
  | .declare .. | .assign .. | .whilst .. | .forever _ | .leave _ | .skip | .give _ | .raise _ =>
    false

/-- Whether all statements are pure. -/
def arePureStatements : List Statement → Bool
  | [] => true
  | s :: rest => s.isPure && arePureStatements rest

end

/-! ### Parts of variables -/

/-- A step from a value to one of its parts. -/
inductive Access where
  | index (position : Expression)
  | member (name : String)

/-- A part of a variable: the name, and the steps from the outside in. -/
structure Path where
  name : String
  steps : List Access

/-- The part of a variable that an expression stands for. -/
def Expression.path? : Expression → Option Path
  | .named name => some ⟨name, []⟩
  | .index target position =>
    target.path?.map fun p => { p with steps := p.steps ++ [.index position] }
  | .member target name => target.path?.map fun p => { p with steps := p.steps ++ [.member name] }
  | _ => none

end VectorScene.Script
