import VectorScene.Json.Error
import VectorScene.Scene.Entity

/-!
# Errors of the scene

## Main definitions

* `Error`: why a request to the scene is refused
* `Error.message`: the words for it
* `Error.isLookup`: whether a name is the fault
-/

namespace VectorScene.Scene

/-- Why a request to the scene is refused. -/
inductive Error where
  /-- Another entity of the kind has the name. -/
  | duplicateName (kind : Kind) (name : String)
  /-- No entity of the kind answers to the name or shortcut. -/
  | notFound (kind : Kind) (name : String)
  | unknownMode (name : String)
  | unknownSetting (name : String)
  | wrongSetting (name : String) (cause : Json.Cause)
  | missingFile
  | settingsFormat (error : Json.Error)

/-- The words for a file that is not there. -/
def missingFileMessage : String := "No such file or directory (os error 2)"

namespace Error

/-- The words for an error. -/
def message : Error → String
  | duplicateName kind name =>
    s!"A {kind.message} named \"{name}\" already exists.  Please choose a new name."
  | notFound kind name => s!"A {kind.message} named \"{name}\" could not be found."
  | unknownMode name => s!"Unknown render mode: {name}"
  | unknownSetting name => s!"Unknown setting: {name}"
  | wrongSetting name cause => s!"Invalid value for setting '{name}': {cause.message}"
  | missingFile => s!"IO error: {missingFileMessage}"
  | settingsFormat error => s!"Settings format error: {error.message}"

/-- Whether a name that is taken or not found is the fault. Commands report such a fault as their
answer. -/
def isLookup : Error → Bool
  | duplicateName .. | notFound .. => true
  | _ => false

end Error

end VectorScene.Scene
