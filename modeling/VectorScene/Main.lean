import VectorScene.Terminal.Dialogue

/-!
# The program

Reads the files that the options name and the lines that are typed, shows what the dialogue answers,
and keeps the log file up to date.
-/

namespace VectorScene.Terminal

open Command

/-- Shows lines. -/
def display (shown : List Output) : IO Unit := do
  for o in shown do
    if o.isError then IO.eprintln o.text else IO.println o.text

/-- The text of a file, if it can be read. -/
def fileText (name : String) : IO (Option String) := do
  try return some (← IO.FS.readFile name)
  catch _ => return none

/-- Whether there is a folder. -/
def folderExists (path : String) : IO Bool := do
  try
    let _ ← IO.FS.realPath (path ++ "/.")
    return true
  catch _ => return false

/-- The files that the options name, and the folder of the log. -/
def gather (o : Options) : IO Files := do
  let mut files : Files := {}
  for name in o.inputs do
    match ← fileText name with
    | some text => files := files.put name text
    | none => pure ()
  for name in o.log.toList do
    for path in [folder name.toList, name.toList] do
      if ← folderExists (String.ofList path) then
        files := { files with folders := path :: files.folders }
  return files

/-- Writes the log file if its text has changed. -/
def saveLog (o : Options) (before after : Files) : IO Unit := do
  for name in o.log.toList do
    match after.read? name with
    | some text => if before.read? name != some text then IO.FS.writeFile name text
    | none => pure ()

/-- Answers lines until the dialogue ends. -/
partial def listen (o : Options) (s : Session) : IO Session := do
  let line ← (← IO.getStdin).getLine
  if line.isEmpty then return s
  else match answer line.toList s with
    | none => return s
    | some (shown, after) =>
      display shown
      saveLog o s.engine.log.files after.engine.log.files
      listen o after

/-- Runs the program with files for its options. -/
def converseWith (o : Options) : IO UInt32 := do
  let files ← gather o
  let seed ← IO.rand 0 (UInt64.size - 1)
  let (result, shown, s) := prepare o (.start {} (.ofSeed (UInt64.ofNat seed)) files)
  display shown
  saveLog o {} s.engine.log.files
  let last ← match result with
    | .ok () =>
      display [.line greeting]
      listen o s
    | .error _ => pure s
  saveLog o last.engine.log.files last.closeLog.engine.log.files
  return if result.isOk then 0 else 1

end VectorScene.Terminal

open VectorScene.Terminal in
/-- Runs the program. -/
def main (arguments : List String) : IO UInt32 := do
  match Options.ofArguments? arguments with
  | .ok none =>
    display [.line usage]
    return 0
  | .error fault =>
    display [.refusal fault]
    return 2
  | .ok (some o) => converseWith o
