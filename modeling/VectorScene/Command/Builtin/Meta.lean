import VectorScene.Command.Plan

/-!
# Listing, help and history

Commands about commands.

## Main definitions

* `Builtin.metaCommands`: the commands of this module
-/

namespace VectorScene.Command.Builtin

open VectorScene.Geometry Scene

/-- Lists the commands of the terminal. -/
def listCommands : Builtin where
  definition := {
    name := "listCommands"
    description :=
      "Lists all commands available within the terminal."
    example? := "listCommands()" }
  plan view _ := .ok (.answer (.string (listing view.definitions)))

/-- Gives the history as a command list. -/
def getCommandHistory : Builtin where
  definition := {
    name := "getCommandHistory"
    description :=
      "Returns the recorded commands history in JSON format.  The returned JSON can be used to " ++
      "replay the sequence of commands by pasting the JSON into the Execute Commands menu."
    example? := "getCommandHistory()" }
  plan view _ := .ok (.answer (.string (Call.listJson view.history)))

/-- Clears the history. -/
def clearCommandHistory : Builtin where
  definition := {
    name := "clearCommandHistory"
    description :=
      "Clears the recorded command history."
    example? := "clearCommandHistory()" }
  plan _ _ := .ok (.forget (.string "The command history has been cleared."))

/-- Runs a command list, once all of it has been read. -/
def runJsonCommandList : Builtin where
  definition := {
    name := "runJsonCommandList"
    exposure := .internal
    parameters := [required "commandList" .string] }
  plan _ args := do
    match Call.listOfJson (← args.string "commandList") with
    | .ok calls => return .replay calls
    | .error e => throw (.json e)

/-- Gives the text about a command. -/
def help : Builtin where
  definition := {
    name := "help"
    exposure := .internal
    parameters := [required "commandName" .string] }
  plan view args := do
    return .answer (.string (helpText view.definitions (← args.string "commandName")))

/-- The commands of this module. -/
def metaCommands : List Builtin :=
  [listCommands, getCommandHistory, clearCommandHistory, runJsonCommandList, help]

end VectorScene.Command.Builtin
