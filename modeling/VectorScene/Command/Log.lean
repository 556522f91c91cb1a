import VectorScene.Command.Call

/-!
# Log files

While a log file is open, every recorded call is written to it, either as the expression that makes
the call or as JSON text, one call a line. What is written is gathered in a buffer, and reaches the
file when the buffer overflows or the log is closed.

## Main definitions

* `LogFormat`, `LogFormat.ofPath`: the two formats; the ending of the file's name chooses
* `Files`, `Files.create`: the files by name, and a new one
* `OpenLog`, `OpenLog.write`: a log that is open, and text written to it
* `Log`: the files, and the log that is open
* `Log.open`, `Log.record`, `Log.close`: the operations
-/

namespace VectorScene.Command

/-- The formats of log files. -/
inductive LogFormat where
  | script
  | jsonLines
deriving DecidableEq, Repr

/-- The stretches of a text between the occurrences of a character. -/
def splitAtChar (separator : Char) (text : List Char) : List (List Char) :=
  text.foldr
    (fun c parts => if c = separator then [] :: parts else match parts with
      | part :: rest => (c :: part) :: rest
      | [] => [[c]])
    [[]]

/-- The last component of a path. Slashes and single points behind it do not count, and two points
are no name. -/
def fileName? (path : List Char) : Option (List Char) :=
  match (splitAtChar '/' path).reverse.dropWhile (fun part => part = [] ∨ part = ['.']) with
  | [] => none
  | last :: _ => if last = ['.', '.'] then none else some last

/-- What follows the last point of a name, unless the name has no other part. -/
def extension? (name : List Char) : Option (List Char) :=
  match (splitAtChar '.' name).reverse with
  | last :: rest => if rest = [] ∨ rest = [[]] then none else some last
  | [] => none

namespace LogFormat

/-- The format of a log file of this name. -/
def ofPath (path : String) : LogFormat :=
  match fileName? path.toList >>= extension? with
  | some ending => if ending = "json".toList ∨ ending = "jsonl".toList then jsonLines else script
  | none => script

/-- The name of a format in messages. -/
def message : LogFormat → String
  | script => "Script"
  | jsonLines => "JsonLines"

end LogFormat

/-- The texts of files by name, and the folders that files can be put into. -/
structure Files where
  texts : List (String × String) := []
  folders : List (List Char) := [[]]

/-- The folder in a path, without the slash behind it. -/
def folder (path : List Char) : List Char := ((path.reverse.dropWhile (· != '/')).drop 1).reverse

/-- What follows the folder in a path. -/
def lastPart (path : List Char) : List Char := (path.reverse.takeWhile (· != '/')).reverse

namespace Files

/-- The text of a file. -/
def read? (files : Files) (name : String) : Option String := files.texts.lookup name

/-- The files with another text for one of them. -/
def put (files : Files) (name text : String) : Files :=
  { files with texts := (name, text) :: files.texts.filter (·.1 != name) }

/-- The files with more text at the end of one of them. -/
def append (files : Files) (name text : String) : Files :=
  files.put name ((files.read? name).getD "" ++ text)

/-- Whether a path leads to a folder. -/
def isFolder (files : Files) (path : List Char) : Bool :=
  [[], ['.'], ['.', '.']].contains (lastPart path) || files.folders.contains path

/-- The files with an empty one, whether or not it was there before. -/
def create (files : Files) (name : String) : Except Error Files :=
  if !files.folders.contains (folder name.toList) then .error .missingFile
  else if files.isFolder name.toList then .error .isFolder
  else .ok (files.put name "")

end Files

/-- A log that is open, with the text that has not reached the file. -/
structure OpenLog where
  file : String
  format : LogFormat
  pending : String

namespace OpenLog

/-- How many bytes the buffer holds. -/
def capacity : Nat := 8192

/-- Writes a piece of text: what reaches the file, and the log with the rest in its buffer. The
buffer is emptied before a piece that does not fit, and a piece as large as the buffer does not pass
through it. -/
def write (log : OpenLog) (piece : String) : String × OpenLog :=
  let (flushed, kept) :=
    if log.pending.utf8ByteSize + piece.utf8ByteSize ≤ capacity then ("", log.pending)
    else (log.pending, "")
  if capacity ≤ piece.utf8ByteSize then (flushed ++ piece, { log with pending := kept })
  else (flushed, { log with pending := kept ++ piece })

end OpenLog

/-- The files, and the log that is open. -/
structure Log where
  files : Files := {}
  current : Option OpenLog := none

namespace Log

/-- The first line of a log in script format. -/
def header : String := "# vecviz command log\n"

/-- Writes a piece of text to the log, if one is open. -/
def write (log : Log) (piece : String) : Log :=
  match log.current with
  | none => log
  | some current =>
    let (flushed, current) := current.write piece
    { files := log.files.append current.file flushed, current := some current }

/-- Closes the log; all that was written reaches the file. -/
def close (log : Log) : Log :=
  match log.current with
  | none => log
  | some current => ⟨log.files.append current.file current.pending, none⟩

/-- Opens an empty log after closing the one that is open. -/
def «open» (log : Log) (name : String) : Except Error LogFormat × Log :=
  let log := log.close
  match log.files.create name with
  | .error fault => (.error fault, log)
  | .ok files =>
    let format := LogFormat.ofPath name
    let log : Log := ⟨files, some ⟨name, format, ""⟩⟩
    (.ok format, match format with
      | .script => log.write header
      | .jsonLines => log)

/-- Records a call, given the expression that makes it. -/
def record (log : Log) (call : Call) (expression : String) : Log :=
  match log.current with
  | none => log
  | some current =>
    let line := match current.format with
      | .script => expression
      | .jsonLines => call.json
    (log.write line).write "\n"

end Log

end VectorScene.Command
