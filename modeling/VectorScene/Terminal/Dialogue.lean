import VectorScene.Session
import VectorScene.Terminal.Options

/-!
# The dialogue at the terminal

Every line that is typed is a script; its value is shown unless it is absent, and so is the error of
a line that fails. Before the first line the settings are loaded, the log is opened, a command list
is replayed and a script is run, as far as the options name files for it. If one of these fails, the
program ends.

## Main definitions

* `Output`: a line that is shown
* `prepare`: what comes before the first line
* `answer`: what is shown for a line
* `converse`: a whole dialogue
* `run`: the whole program
-/

namespace VectorScene.Terminal

open Command

/-- A line that is shown. -/
inductive Output where
  | line (text : String)
  | problem (error : Error)
  | refusal (fault : OptionFault)

namespace Output

/-- The text of a line that is shown. -/
def text : Output → String
  | line text => text
  | problem error => s!"Error: {error.message}"
  | refusal fault => s!"Error: {fault.message}\n\n{usage}"

/-- Whether a line belongs to the errors. -/
def isError : Output → Bool
  | line _ => false
  | problem _ | refusal _ => true

end Output

/-- What stands in front of a call that comes from a menu. -/
def prompt : String := "vecviz> "

/-- The first line that is shown. -/
def greeting : String :=
  "vecviz terminal. Type listCommands() for commands, help(\"name\") for details, quit to exit."

/-- What is shown for a line of the console. -/
def ofConsole : ConsoleLine → Option Output
  | .input text => some (.line (prompt ++ text))
  | .output text => some (.line text)
  | .prompt => none

/-- What is shown for a value. -/
def ofValue (v : Value) : List Output := if v.isAbsent then [] else [.line v.display]

/-- The lines on the console of a session, and the session without them. -/
def drain (s : Session) : List Output × Session :=
  (s.engine.console.filterMap ofConsole, { s with engine := { s.engine with console := [] } })

/-! ### Before the first line -/

/-- A step before the first line: whether it succeeds, what is shown, and the session behind it. -/
abbrev Step := Session → Except Error Unit × List Output × Session

/-- A step that is taken only if a file is given for it. -/
def ifGiven (file : Option String) (step : String → Step) : Step := fun s =>
  match file with
  | some name => step name s
  | none => (.ok (), [], s)

/-- Loads the settings. -/
def loadSettings (file : String) : Step := fun s =>
  match Scene.Settings.load (s.engine.log.files.read? file) with
  | .ok settings =>
    let scene := { s.engine.scene with settings }
    (.ok (), [], { s with engine := { s.engine with scene } })
  | .error e => (.error (.scene e), [], s)

/-- Opens the log. -/
def openLog (file : String) : Step := fun s =>
  let (result, s) := s.openLog file
  (result, [], s)

/-- Replays a command list. -/
def replay (file : String) : Step := fun s =>
  match s.engine.log.files.read? file with
  | none => (.error .missingFile, [], s)
  | some text =>
    let (result, s) := s.runJson text
    let (shown, s) := drain s
    (result.map fun _ => (), shown, s)

/-- Runs a script, and shows its value. -/
def runScript (file : String) : Step := fun s =>
  let (result, s) := s.runScript file
  let (shown, s) := drain s
  match result with
  | .ok v => (.ok (), shown ++ ofValue v, s)
  | .error e => (.error e, shown, s)

/-- Takes steps up to the first that fails. -/
def inTurn : List Step → Step
  | [], s => (.ok (), [], s)
  | step :: rest, s =>
    match step s with
    | (.error e, shown, s) => (.error e, shown, s)
    | (.ok (), shown, s) =>
      let (result, more, s) := inTurn rest s
      (result, shown ++ more, s)

/-- All that comes before the first line. -/
def prepare (o : Options) : Step :=
  inTurn [ifGiven o.settings loadSettings, ifGiven o.log openLog, ifGiven o.replay replay,
    ifGiven o.script runScript]

/-! ### The dialogue -/

/-- Whether a line ends the dialogue. -/
def isFarewell (text : List Char) : Bool :=
  text == "quit".toList || text == "exit".toList

/-- What is shown for a line, and the session behind it; none if the line ends the dialogue. -/
def answer (line : List Char) (s : Session) : Option (List Output × Session) :=
  let text := Text.trim line
  if text.isEmpty then some ([], s)
  else if isFarewell text then none
  else
    let (result, s) := s.evaluate (String.ofList text)
    let (shown, s) := drain s
    match result with
    | .ok v => some (shown ++ ofValue v, s)
    | .error e => some (shown ++ [.problem e], s)

/-- What is shown for lines, and the session behind them. -/
def converse : List (List Char) → Session → List Output × Session
  | [], s => ([], s)
  | line :: rest, s =>
    match answer line s with
    | none => ([], s)
    | some (shown, s) =>
      let (more, s) := converse rest s
      (shown ++ more, s)

/-! ### The program -/

/-- What the program leaves behind. -/
structure Outcome where
  exitCode : Nat
  shown : List Output
  files : Files

/-- Runs the program. -/
def run (arguments : List String) (input : String) (files : Files) (draws : Draws) : Outcome :=
  match Options.ofArguments? arguments with
  | .ok none => ⟨0, [.line usage], files⟩
  | .error fault => ⟨2, [.refusal fault], files⟩
  | .ok (some o) =>
    match prepare o (.start {} draws files) with
    | (.error _, shown, s) => ⟨1, shown, s.closeLog.engine.log.files⟩
    | (.ok (), shown, s) =>
      let (more, s) := converse (Text.segments input.toList) s
      ⟨0, shown ++ .line greeting :: more, s.closeLog.engine.log.files⟩

end VectorScene.Terminal
