import VectorScene.Command.Value
import VectorScene.Text.Identifier

/-!
# Schemas

A command declares its parameters in order: the name, the type, and whether an argument has to be
given. The order is that of the arguments of a call.

## Main definitions

* `ArgType`: the types of arguments
* `ArgType.accepts`: whether a value has a type
* `Parameter`: a declared argument
* `Definition`: what is known about a command
* `Definition.fault?`: what is wrong with a definition
-/

namespace VectorScene.Command

/-- The types of arguments. -/
inductive ArgType where
  | string
  | float
  | int
  | bool
  | point
  | transform
  | any
deriving DecidableEq, Repr

namespace ArgType

/-- Whether a value that is given has the type. -/
def accepts : ArgType → Value → Bool
  | string, v => v.toString?.isSome
  | float, v => v.toFloat?.isSome
  | int, v => v.toInt?.isSome
  | bool, v => v.toBool?.isSome
  | point, v => v.toPoint?.isSome
  | transform, v => v.toTransform?.isSome
  | any, _ => true

/-- The type in a message. -/
def message : ArgType → String
  | string => "a string"
  | float => "a number"
  | int => "an integer"
  | bool => "a boolean"
  | point => "a list of three numbers"
  | transform => "four rows of four numbers"
  | any => "a value"

end ArgType

/-- A declared argument. -/
structure Parameter where
  name : String
  type : ArgType
  required : Bool
deriving DecidableEq, Repr

/-- A parameter that has to be given. -/
def required (name : String) (type : ArgType) : Parameter := ⟨name, type, true⟩

/-- A parameter that may be left out. -/
def optional (name : String) (type : ArgType) : Parameter := ⟨name, type, false⟩

/-- Where a command is offered. -/
inductive Exposure where
  /-- Not listed in the terminal. -/
  | internal
  /-- Listed in the terminal. -/
  | terminal
  /-- Listed in the terminal; its result is shown when it is called from a menu. -/
  | console
deriving DecidableEq, Repr

namespace Exposure

/-- Whether the terminal lists the command. -/
def isListed : Exposure → Bool
  | internal => false
  | terminal | console => true

/-- Whether the result is shown when the command is called from a menu. -/
def echoes : Exposure → Bool
  | console => true
  | internal | terminal => false

end Exposure

/-- What is known about a command. -/
structure Definition where
  name : String
  description : String := ""
  example? : String := ""
  exposure : Exposure := .terminal
  parameters : List Parameter := []
deriving DecidableEq, Repr

/-- How many parameters a command may have. -/
def parameterLimit : Nat := 16

/-- What is wrong with a definition. -/
inductive DefinitionFault where
  | badName
  | tooManyParameters
  | badParameter (name : String)
  | repeatedParameter (name : String)
  | requiredAfterOptional (name : String)
deriving DecidableEq, Repr

namespace DefinitionFault

/-- The words for a fault. -/
def message : DefinitionFault → String
  | badName => "name must be an identifier"
  | tooManyParameters => s!"at most {parameterLimit} arguments are supported"
  | badParameter name => s!"argument name '{name}' must be an identifier"
  | repeatedParameter name => s!"duplicate argument '{name}'"
  | requiredAfterOptional name => s!"required argument '{name}' follows an optional one"

end DefinitionFault

namespace Definition

/-- What is wrong with a list of parameters, given those before it. -/
def parameterFault? : List Parameter → List Parameter → Option DefinitionFault
  | _, [] => none
  | before, p :: rest =>
    if !Text.isIdentifier p.name then some (.badParameter p.name)
    else if before.any (·.name == p.name) then some (.repeatedParameter p.name)
    else if p.required && before.any (!·.required) then some (.requiredAfterOptional p.name)
    else parameterFault? (before ++ [p]) rest

/-- What is wrong with a definition, if anything is. -/
def fault? (d : Definition) : Option DefinitionFault :=
  if !Text.isIdentifier d.name then some .badName
  else if parameterLimit < d.parameters.length then some .tooManyParameters
  else parameterFault? [] d.parameters

end Definition

end VectorScene.Command
