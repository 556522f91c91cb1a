import VectorScene.Proofs.Command.Failure
import VectorScene.Proofs.Command.Lines

/-!
# The text of an open log

What was written to an open log is the text of its file with what is still in the buffer behind it,
and closing the log brings all of it into the file. Each recorded entry adds one line.

## Main definitions

* `Page`: the file of an open log, its format and all that was written to it
* `Log.page?`: the page of the log that is open
* `Entry.line`: the line of an entry

## Main results

* `Log.page?_write`: writing adds a piece of text, however the buffer stands
* `Log.page?_record`, `Log.page?_open`: an entry adds a line to the page, which an opened log starts
* `Log.read?_close`: closing the log
* `Entry.oneLine_line`: a line is one line
-/

namespace VectorScene.Command

/-! ### Files -/

namespace Files

variable (files : Files) (name text : String)

@[simp] theorem read?_put : (files.put name text).read? name = some text := by
  simp [read?, put]

@[simp] theorem read?_append :
    (files.append name text).read? name = some ((files.read? name).getD "" ++ text) :=
  read?_put _ _ _

/-- A file that is created is empty. -/
theorem read?_create {files files' : Files} {name : String}
    (h : files.create name = .ok files') : files'.read? name = some "" := by
  unfold create at h
  split at h
  · cases h
  · split at h
    · cases h
    · cases h
      exact read?_put _ _ _

end Files

/-! ### The buffer -/

/-- Nothing is lost in the buffer: what reaches the file, and what is in the buffer then, are what
was in the buffer and the piece. -/
theorem OpenLog.write_text (log : OpenLog) (piece : String) :
    (log.write piece).1 ++ (log.write piece).2.pending = log.pending ++ piece := by
  unfold write
  by_cases hfits : log.pending.utf8ByteSize + piece.utf8ByteSize ≤ capacity
  · by_cases hlarge : capacity ≤ piece.utf8ByteSize
    · -- a piece as large as the buffer fits only behind nothing
      have hempty : log.pending = "" := by
        apply String.utf8ByteSize_eq_zero_iff.1
        omega
      simp [hlarge, hempty]
    · simp [hfits, hlarge]
  · by_cases hlarge : capacity ≤ piece.utf8ByteSize
    · simp [hfits, hlarge]
    · simp [hfits, hlarge]

theorem OpenLog.write_file (log : OpenLog) (piece : String) :
    (log.write piece).2.file = log.file := by
  unfold write
  simp only
  split <;> rfl

theorem OpenLog.write_format (log : OpenLog) (piece : String) :
    (log.write piece).2.format = log.format := by
  unfold write
  simp only
  split <;> rfl

/-! ### Lines and pages -/

/-- The line of an entry in a log file. -/
def Entry.line (format : LogFormat) (x : Entry) : String :=
  match format with
  | .script => x.expression
  | .jsonLines => x.call.json

/-- The line of an entry is one line. In script format it starts with the name of the command. -/
theorem Entry.oneLine_line {x : Entry} (h : Text.isIdentifier x.definition.name)
    (format : LogFormat) : Text.OneLine (x.line format).toList := by
  cases format with
  | script =>
    simp only [line, expression, callText, String.toList_ofList]
    exact oneLine_callChars (Text.oneLine_of_isIdentifier h) _ _
  | jsonLines =>
    simp only [line, Call.json, String.toList_ofList]
    exact x.call.oneLine_jsonChars

/-- The file of an open log, its format and all that was written to it. -/
structure Page where
  file : String
  format : LogFormat
  text : String
deriving DecidableEq

namespace Page

/-- The page with more text. -/
def add (p : Page) (piece : String) : Page := { p with text := p.text ++ piece }

/-- The text of entries, one a line. -/
def lines (format : LogFormat) (entries : List Entry) : String :=
  String.join (entries.map fun x => x.line format ++ "\n")

/-- The page with the lines of more entries. -/
def extend (p : Page) (entries : List Entry) : Page := p.add (lines p.format entries)

/-- The text that a log of a format starts with. -/
def head : LogFormat → String
  | .script => Log.header
  | .jsonLines => ""

/-- The page of a log that has been opened. -/
def start (file : String) : Page := ⟨file, .ofPath file, head (.ofPath file)⟩

theorem lines_append (format : LogFormat) (xs ys : List Entry) :
    lines format (xs ++ ys) = lines format xs ++ lines format ys := by
  simp [lines, String.join_append]

@[simp] theorem extend_nil (p : Page) : p.extend [] = p := by
  simp [extend, add, lines]

theorem extend_append (p : Page) (xs ys : List Entry) :
    p.extend (xs ++ ys) = (p.extend xs).extend ys := by
  simp [extend, add, lines_append, String.append_assoc]

end Page

namespace Log

/-- The page of the log that is open: what has reached the file, and the buffer behind it. -/
def page? (log : Log) : Option Page :=
  log.current.map fun current =>
    ⟨current.file, current.format, (log.files.read? current.file).getD "" ++ current.pending⟩

/-- **Writing** adds a piece of text, whatever of it reaches the file. -/
theorem page?_write (log : Log) (piece : String) :
    (log.write piece).page? = log.page?.map (·.add piece) := by
  cases hcurrent : log.current with
  | none => simp [write, page?, hcurrent]
  | some current =>
    have htext := current.write_text piece
    simp only [write, page?, hcurrent, Option.map_some, Page.add, current.write_file,
      current.write_format, Files.read?_append, Option.getD_some, Option.some.injEq, Page.mk.injEq,
      true_and]
    rw [String.append_assoc, htext, String.append_assoc]

/-- **An entry** adds its line. -/
theorem page?_record (log : Log) (x : Entry) :
    (log.record x.call x.expression).page? = log.page?.map (·.extend [x]) := by
  cases hcurrent : log.current with
  | none => simp [record, page?, hcurrent]
  | some current =>
    have hline : log.record x.call x.expression =
        (log.write (x.line current.format)).write "\n" := by
      simp only [record, hcurrent]
      rfl
    rw [hline, page?_write, page?_write]
    simp [page?, hcurrent, Page.extend, Page.add, Page.lines, String.append_assoc]

@[simp] theorem page?_close (log : Log) : log.close.page? = none := by
  cases hcurrent : log.current with
  | none => simp [close, page?, hcurrent]
  | some current => simp [close, page?, hcurrent]

/-- **Closing the log** brings all that was written into the file. -/
theorem read?_close {log : Log} {p : Page} (h : log.page? = some p) :
    log.close.files.read? p.file = some p.text := by
  cases hcurrent : log.current with
  | none => simp [page?, hcurrent] at h
  | some current =>
    simp only [page?, hcurrent, Option.map_some, Option.some.injEq] at h
    subst h
    simp [close, hcurrent]

/-- **An opened log** starts a page of its own; after a file that cannot be opened, no log is
open. -/
theorem page?_open (log : Log) (file : String) :
    (log.open file).2.page? =
      match (log.open file).1 with
      | .ok _ => some (Page.start file)
      | .error _ => none := by
  unfold «open»
  cases hcreate : log.close.files.create file with
  | error fault =>
    simp only [hcreate]
    exact page?_close log
  | ok files =>
    have hread := Files.read?_create hcreate
    simp only [hcreate, Page.start, Page.head]
    cases LogFormat.ofPath file with
    | script =>
      -- the first line is written like any other text
      simp only [page?_write]
      simp [page?, hread, Page.add]
    | jsonLines => simp [page?, hread]

end Log

end VectorScene.Command
