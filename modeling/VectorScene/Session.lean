import VectorScene.Command.Bridge
import VectorScene.Command.Builtin
import VectorScene.Command.Engine

/-!
# Sessions

A session puts an engine, its commands and the bridge together: every command is bound to its name,
so scripts can call it.

## Main definitions

* `Session`: the commands, the engine and the bridge
* `Session.start`: a session with the commands of the library
* `Session.register`: one more command
* `Session.evaluate`, `Session.runScript`: scripts
* `Session.replay`: the history in a new session
-/

namespace VectorScene

open Command

/-- The commands, the engine and the bridge. -/
structure Session where
  table : Table
  engine : Engine
  bridge : Bridge

namespace Session

/-- A session with the commands of a table, bound in the order of their names. -/
def ofTable (table : Table) (engine : Engine) : Session :=
  ⟨table, engine, table.names.foldl Bridge.bind {}⟩

/-- A session with the commands of the library. -/
def start (scene : Scene.State) (draws : Draws) (files : Files) : Session :=
  ofTable .builtin { scene, draws, log := { files } }

/-- Adds a command, in the place of one of the same name, and binds it. -/
def register (s : Session) (c : Command) : Except Error Session :=
  match s.table.register c with
  | .error e => .error e
  | .ok table => .ok { s with table, bridge := s.bridge.bind c.name }

/-- Runs something on the engine. -/
def onEngine {α : Type} (s : Session) (step : Engine → α × Engine) : α × Session :=
  let (a, engine) := step s.engine
  (a, { s with engine })

/-- Runs a call that was typed, or that came from a menu. -/
def call (s : Session) (surface : Bool) (c : Call) : Except Error Value × Session :=
  s.onEngine (Engine.call s.table surface c)

/-- Runs calls in order, up to the first that fails. -/
def runList (s : Session) (calls : List Call) : Except Error (List Value) × Session :=
  s.onEngine (Engine.runList s.table false calls)

/-- Runs a command list in JSON text. -/
def runJson (s : Session) (text : String) : Except Error (List Value) × Session :=
  s.onEngine (Engine.runJson s.table text)

/-- What the commands do when scripts call them. -/
def functions (table : Table) : Functions Engine where
  call := Engine.callPositional table
  print text e := e.report (.info text)

/-- Evaluates a script. -/
def evaluate (s : Session) (text : String) : Except Error Value × Session :=
  let (result, bridge, engine) := s.bridge.evaluate (functions s.table) text s.engine
  (result, { s with bridge, engine })

/-- Evaluates the script in a file. -/
def runScript (s : Session) (file : String) : Except Error Value × Session :=
  match s.engine.log.files.read? file with
  | none => (.error .missingFile, s)
  | some text =>
    let engine := s.engine.report (.info s!"Running script {Text.quoted file}")
    { s with engine }.evaluate text

/-- Runs the history as a command list in a new session, which draws on from the same stream. -/
def replay (s : Session) : Except Error (List Value) × Session :=
  (start {} s.engine.draws {}).runJson (Call.listJson s.engine.history)

/-- Clears the history. -/
def clearHistory (s : Session) : Session := { s with engine := { s.engine with history := [] } }

/-- Whether a new menu was asked for, and the session in which that has been heard. -/
def takeMenu (s : Session) : Bool × Session :=
  let (isStale, scene) := s.engine.scene.takeMenu
  (isStale, { s with engine := { s.engine with scene } })

/-- Opens a log file. -/
def openLog (s : Session) (file : String) : Except Error Unit × Session :=
  s.onEngine (Engine.openLog file)

/-- Closes the log file. -/
def closeLog (s : Session) : Session := { s with engine := s.engine.closeLog }

/-- The text about a command. -/
def help (s : Session) (name : String) : String := helpText s.table.definitions name

end Session

end VectorScene
