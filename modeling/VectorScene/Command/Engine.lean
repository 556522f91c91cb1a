import VectorScene.Command.Log
import VectorScene.Command.Table

/-!
# The engine

The engine runs calls. A call that succeeds is recorded in the history and in the log that is open;
calls that it makes on its way are recorded before it. A name that is taken or not found is no
failure: its words are the result. Every other error leaves the call unrecorded.

A call from a menu or from a command list shows itself and its result on the console, if the command
asks for it.

## Main definitions

* `ConsoleLine`, `Notice`: what is shown and what is reported
* `Engine`: the scene, the history, the console, the log and the notices
* `Handler.run`: the steps of a handler, given how other commands run
* `dispatch`: a call
* `Engine.execute`, `Engine.replay`, `Engine.runList`: calls from outside
-/

namespace VectorScene.Command

/-- A line on the console. -/
inductive ConsoleLine where
  | input (text : String)
  | output (text : String)
  | prompt
deriving DecidableEq, Repr

/-- Something that is reported. -/
inductive Notice where
  | info (text : String)
  | warning (text : String)
deriving DecidableEq, Repr

/-- All that calls work on. -/
structure Engine where
  scene : Scene.State := {}
  draws : Draws
  history : List Call := []
  console : List ConsoleLine := []
  log : Log := {}
  notices : List Notice := []

namespace Engine

/-- The scene and the stream of random numbers. -/
def workspace (e : Engine) : Workspace := ⟨e.scene, e.draws⟩

/-- The engine after a change of the scene. -/
def withWorkspace (e : Engine) (w : Workspace) : Engine :=
  { e with scene := w.scene, draws := w.draws }

/-- What handlers can read. -/
def view (e : Engine) (definitions : List Definition) : View :=
  ⟨e.scene, e.history, definitions⟩

/-- The engine after something was reported. -/
def report (e : Engine) (n : Notice) : Engine := { e with notices := e.notices ++ [n] }

/-- The engine after a call and its result were shown. -/
def echo (e : Engine) (expression : String) (result : Value) : Engine :=
  { e with console := e.console ++ [.input expression, .output result.display, .prompt] }

/-- The engine after a call was recorded, and shown if it came from a menu and the command asks for
it. -/
def record (e : Engine) (d : Definition) (surface : Bool) (args : Args) (result : Value) : Engine :=
  let call : Call := ⟨d.name, args⟩
  let expression := callText d.name d.parameters args
  let e := { e with log := e.log.record call expression, history := e.history ++ [call] }
  if surface && d.exposure.echoes then e.echo expression result else e

end Engine

namespace Handler

/-- The steps of a handler, given how other commands run. -/
def run (runCall : Bool → Call → Engine → Except Error Value × Engine)
    (definitions : List Definition) : Handler → Engine → Except Error Value × Engine
  | done result, e => (result, e)
  | look next, e => (next (e.view definitions)).run runCall definitions e
  | change step next, e =>
    let (result, w) := step e.workspace
    (next result).run runCall definitions (e.withWorkspace w)
  | clearHistory next, e => next.run runCall definitions { e with history := [] }
  | print text next, e => next.run runCall definitions (e.report (.info text))
  | call surface c next, e =>
    let (result, e) := runCall surface c e
    (next result).run runCall definitions e

end Handler

/-- What a call of an unknown command gives. -/
def unknownCommand (name : String) : Value := .string s!"{name} is an invalid command."

/-- The end of a call: a result is recorded, and so are the words for a name that is taken or not
found. -/
def conclude (d : Definition) (surface : Bool) (args : Args) (result : Except Error Value)
    (e : Engine) : Except Error Value × Engine :=
  match result with
  | .ok v => (.ok v, e.record d surface args v)
  | .error fault =>
    match fault.lookup? with
    | some lookup =>
      let v : Value := .string lookup.message
      (.ok v, (e.report (.warning s!"{d.name}: {lookup.message}")).record d surface args v)
    | none => (.error fault, e)

/-- A call, which may nest other calls to the given depth. -/
def dispatch (table : Table) : Nat → Bool → Call → Engine → Except Error Value × Engine
  | 0, _, _, e => (.error .tooDeep, e)
  | depth + 1, surface, call, e =>
    match table.get? call.name with
    | none => (.ok (unknownCommand call.name), e)
    | some command =>
      match call.args.validate command.definition.parameters with
      | .error fault => (.error fault, e)
      | .ok args =>
        let (result, e) :=
          (command.handler args).run (dispatch table depth) table.definitions e
        conclude command.definition surface args result e

namespace Engine

/-- How deep calls may nest, besides the command lists inside the arguments. -/
def nestingLimit : Nat := 1000

/-- Runs a call. A command list inside an argument is shorter than the argument, so the length of
the arguments bounds the nesting of lists. -/
def call (table : Table) (surface : Bool) (c : Call) (e : Engine) : Except Error Value × Engine :=
  dispatch table (c.args.longest + nestingLimit) surface c e

/-- Runs a call that was typed. -/
def execute (table : Table) (c : Call) (e : Engine) : Except Error Value × Engine :=
  e.call table false c

/-- Runs calls in order, up to the first that fails. -/
def runList (table : Table) (surface : Bool) :
    List Call → Engine → Except Error (List Value) × Engine
  | [], e => (.ok [], e)
  | c :: rest, e =>
    match e.call table surface c with
    | (.error fault, e) => (.error fault, e)
    | (.ok v, e) =>
      match runList table surface rest e with
      | (.error fault, e) => (.error fault, e)
      | (.ok vs, e) => (.ok (v :: vs), e)

/-- Runs a command list in JSON text. A text that is no command list runs nothing. -/
def runJson (table : Table) (text : String) (e : Engine) : Except Error (List Value) × Engine :=
  match Call.listOfJson text with
  | .error fault => (.error (.json fault), e)
  | .ok calls => e.runList table true calls

/-- Runs a call by position, as scripts make it. -/
def callPositional (table : Table) (name : String) (values : List Value) (e : Engine) :
    Except Error Value × Engine :=
  match table.get? name with
  | none => (.ok (unknownCommand name), e)
  | some command =>
    let parameters := command.definition.parameters
    if parameters.length < values.length then
      (.error (.evaluation
        s!"{name} takes at most {parameters.length} arguments but {values.length} were given"), e)
    else e.execute table ⟨name, Args.positional parameters values⟩

/-- Opens a log file. -/
def openLog (name : String) (e : Engine) : Except Error Unit × Engine :=
  match e.log.open name with
  | (.error fault, log) => (.error fault, { e with log })
  | (.ok format, log) =>
    let text := s!"Logging to {Text.quoted name} ({format.message} format)"
    (.ok (), { e with log }.report (.info text))

/-- Closes the log file. -/
def closeLog (e : Engine) : Engine := { e with log := e.log.close }

end Engine

end VectorScene.Command
