import VectorScene.Command.Schema
import VectorScene.Scene.Error
import VectorScene.Script.Fault

/-!
# Errors of commands

## Main definitions

* `Reason`: what is wrong with an argument
* `Error`: why a command, a command list or a script fails
* `Error.message`: the words for it
* `Error.lookup?`: the fault of a name that is taken or not found
-/

namespace VectorScene.Command

/-- What is wrong with an argument. -/
inductive Reason where
  /-- It does not have the declared type. -/
  | wrongType (type : ArgType) (value : Value)
  /-- It does not have the type that it is read as. -/
  | expected (type : ArgType)
  | notAColor (value : Int64)
  | noForward
  | noAxis
  | singular

namespace Reason

/-- The words for a reason. -/
def message : Reason → String
  | wrongType type value => s!"expected {type.message}, got {value.literal}"
  | expected type => s!"expected {type.message}"
  | notAColor value => s!"{value.toInt} is not a 0xRRGGBB color"
  | noForward => "forward vector has no direction"
  | noAxis => "a zero-length vector has no axis"
  | singular => "matrix is singular and has no inverse"

end Reason

/-- Why a command, a command list or a script fails. -/
inductive Error where
  /-- A command list is no JSON text of the right form. -/
  | json (error : Json.Error)
  /-- A script does not parse; the fault is on the given line. -/
  | script (line : Nat)
  | argument (name : String) (reason : Reason)
  | missing (name : String)
  | definition (command : String) (fault : DefinitionFault)
  | scene (error : Scene.Error)
  /-- A call or a command fails with the given words. -/
  | evaluation (text : String)
  /-- A script stops at a fault of its own. -/
  | fault (fault : Script.Fault)
  | missingFile
  /-- A folder stands where a file is wanted. -/
  | isFolder
  /-- Commands run each other without end. -/
  | tooDeep

namespace Error

/-- The words for an error. -/
def message : Error → String
  | json e => s!"parse error: {e.message} at line {e.line}, column {e.column}"
  | script line => s!"parse error: malformed script at line {line}"
  | argument name reason => s!"invalid argument '{name}': {reason.message}"
  | missing name => s!"missing required argument: {name}"
  | definition command f => s!"invalid definition for command '{command}': {f.message}"
  | scene e => e.message
  | evaluation text => s!"evaluation error: {text}"
  | fault f => s!"evaluation error: {f.message}"
  | missingFile => s!"I/O error: {Scene.missingFileMessage}"
  | isFolder => "I/O error: Is a directory (os error 21)"
  | tooDeep => "evaluation error: commands are nested too deep"

/-- The fault of a name that is taken or not found. -/
def lookup? : Error → Option Scene.Error
  | scene e => if e.isLookup then some e else none
  | _ => none

end Error

end VectorScene.Command
