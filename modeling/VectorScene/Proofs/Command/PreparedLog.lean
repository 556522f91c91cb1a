import VectorScene.Proofs.Command.LogFile
import VectorScene.Proofs.Command.ScriptLog
import VectorScene.Proofs.Script.Prepared

/-!
# A log as a script

A log in script format is a script: its first line is a comment, and each line behind it is the
expression of a call. What stands in the arguments of a call, quotes, braces and the starts of
comments included, is read as part of a literal. So preparing the log leaves a blank line for the
first one, and only ends the statement on each of the others.

## Main definitions

* `Log.recordAll`: entries recorded one after another

## Main results

* `Log.page?_recordAll`: each entry adds its line to the page
* `Log.read?_recorded`: the text of a log that is closed
* `prepareLines_page`: the lines of a log in script format, prepared
* `prepare_recorded`: the expression of a call and the whole log
-/

namespace VectorScene.Command

open Script (IsStatement)

/-! ### The text of a log -/

namespace Log

/-- The log with entries recorded one after another. -/
def recordAll (log : Log) (entries : List Entry) : Log :=
  entries.foldl (fun log x => log.record x.call x.expression) log

theorem page?_recordAll (log : Log) (entries : List Entry) :
    (log.recordAll entries).page? = log.page?.map (·.extend entries) := by
  induction entries generalizing log with
  | nil => cases hpage : log.page? <;> simp [recordAll, hpage]
  | cons x rest ih =>
    have hstep : log.recordAll (x :: rest) = (log.record x.call x.expression).recordAll rest := rfl
    rw [hstep, ih, page?_record, Option.map_map]
    congr 1
    funext p
    exact (p.extend_append [x] rest).symm

/-- **The text of a log** that was opened and is closed behind these entries. -/
theorem read?_recorded {log : Log} {file : String} {format : LogFormat}
    (hopen : (log.open file).1 = .ok format) (entries : List Entry) :
    ((log.open file).2.recordAll entries).close.files.read? file =
      some ((Page.start file).extend entries).text := by
  have hpage := page?_open log file
  rw [hopen] at hpage
  refine read?_close (p := (Page.start file).extend entries) ?_
  rw [page?_recordAll, hpage]
  rfl

/-- The format of an opened log is the one that its name asks for. -/
theorem format_open {log : Log} {file : String} {format : LogFormat}
    (hopen : (log.open file).1 = .ok format) : LogFormat.ofPath file = format := by
  unfold «open» at hopen
  cases hcreate : log.close.files.create file with
  | error fault => simp [hcreate] at hopen
  | ok files => simpa [hcreate] using hopen

end Log

/-! ### The prepared log -/

/-- The first line of a log in script format, which is a comment. -/
def headerLine : List Char := "# vecviz command log".toList

theorem header_toList : Log.header.toList = headerLine ++ ['\n'] := by
  decide

/-- Nothing of the first line is left. -/
theorem prepareLines_headerLine (lines : List (List Char)) :
    Script.prepareLines [] (headerLine :: lines) = [] :: Script.prepareLines [] lines := by
  have hcode : Script.code headerLine = [] := by decide
  rw [Script.prepareLines, hcode]
  rfl

/-- The lines of a script log, as they stand in its text. -/
theorem page_toList (entries : List Entry) : (Log.header ++ Page.lines .script entries).toList =
    (headerLine :: entries.map (·.expression.toList)).flatMap (· ++ ['\n']) := by
  rw [String.toList_append, header_toList, List.flatMap_cons]
  simp [Page.lines, Entry.line, List.flatMap_map]

section Names

variable {entries : List Entry}
  (hnames : ∀ x ∈ entries, Text.isIdentifier x.definition.name = true)

include hnames

/-- The text of the log is read in the lines that it was written in. -/
theorem lines_page : Text.lines (Log.header ++ Page.lines .script entries).toList =
    headerLine :: entries.map (·.expression.toList) := by
  rw [page_toList]
  -- no line of the page holds a line break of its own
  refine Text.lines_flatMap (List.forall_mem_cons.2 ⟨by decide, fun line hline => ?_⟩)
  obtain ⟨x, hx, rfl⟩ := List.mem_map.1 hline
  have honeLine : Text.OneLine x.expression.toList := Entry.oneLine_line (hnames x hx) .script
  exact ⟨fun hbreak => (honeLine _ hbreak).1 rfl,
    fun hlast => (honeLine _ (List.mem_of_getLast? hlast)).2 rfl⟩

/-- **The prepared lines**: a blank one, and a statement for each entry. -/
theorem prepareLines_page :
    Script.prepareLines [] (Text.lines (Log.header ++ Page.lines .script entries).toList) =
      [] :: entries.map (·.expression.toList ++ [';']) := by
  have hstatements : ∀ line ∈ entries.map (·.expression.toList), IsStatement line := by
    intro line hline
    obtain ⟨x, hx, rfl⟩ := List.mem_map.1 hline
    rw [Entry.expression, callText, String.toList_ofList]
    exact isStatement_callChars (hnames x hx)
  rw [lines_page hnames, prepareLines_headerLine, Script.prepareLines_statements [] hstatements,
    List.map_map]
  rfl

theorem prepare_page : Script.prepare (Log.header ++ Page.lines .script entries) =
    "\n" ++ String.join (entries.map (·.expression ++ ";\n")) := by
  apply String.toList_injective
  rw [Script.prepare, Script.prepareChars, prepareLines_page hnames]
  simp [List.flatMap_map]

end Names

/-- **Preparing a log** in script format only ends the statements. The expression of a call is one
line, whatever its arguments are, and is prepared to itself with a semicolon. So the text of a log
that was opened, filled with entries and closed is prepared to a blank line and one statement for
each entry. -/
theorem prepare_recorded {name : String} (hname : Text.isIdentifier name = true)
    (parameters : List Parameter) (args : Args) {log : Log} {file : String}
    (hopen : (log.open file).1 = .ok .script) {entries : List Entry}
    (hnames : ∀ x ∈ entries, Text.isIdentifier x.definition.name = true) :
    Text.OneLine (callText name parameters args).toList ∧
      Script.prepare (callText name parameters args) = callText name parameters args ++ ";\n" ∧
      ∃ text, ((log.open file).2.recordAll entries).close.files.read? file = some text ∧
        Script.prepare text = "\n" ++ String.join (entries.map (·.expression ++ ";\n")) ∧
        Text.lines (Script.prepare text).toList =
          [] :: entries.map (·.expression.toList ++ [';']) := by
  refine ⟨?_, ?_, _, Log.read?_recorded hopen entries, ?_⟩
  · rw [callText, String.toList_ofList]
    exact oneLine_callChars (Text.oneLine_of_isIdentifier hname) parameters args
  · apply String.toList_injective
    rw [Script.prepare, String.toList_ofList, callText, String.toList_ofList,
      prepareChars_callChars hname]
    simp
  · -- the name asks for script format, so that the first line is the header
    have htext : ((Page.start file).extend entries).text =
        Log.header ++ Page.lines .script entries := by
      rw [Page.start, Log.format_open hopen]
      rfl
    rw [htext]
    refine ⟨prepare_page hnames, ?_⟩
    rw [Script.prepare, String.toList_ofList, Script.lines_prepareChars, prepareLines_page hnames]

/-- Arguments with what could be read as a comment, a brace or the end of a literal, and with floats
that no script can write. -/
def unruly : Args :=
  .ofList [("value", .list [.string "\" // \\", .list [.string "#\x7b # \n\x7d", .absent],
    .float (0.0 / 0.0), .string "é\x60'"]), ("middle", .float (1.0 / 0.0))]

theorem prepare_recorded_unruly :
    let parameters := [required "value" .any, optional "middle" .float]
    let entries : List Entry :=
      [⟨{ name := "probe", parameters }, unruly⟩, ⟨{ name := "_1" }, .empty⟩]
    Text.isIdentifier "probe" = true ∧ (Log.open {} "calls.txt").1 = .ok .script ∧
      (∀ x ∈ entries, Text.isIdentifier x.definition.name = true) ∧
      Text.OneLine (callText "probe" parameters unruly).toList ∧
      Script.prepare (callText "probe" parameters unruly) =
        callText "probe" parameters unruly ++ ";\n" ∧
      ∃ text, ((Log.open {} "calls.txt").2.recordAll entries).close.files.read? "calls.txt" =
          some text ∧
        Script.prepare text = "\n" ++ String.join (entries.map (·.expression ++ ";\n")) ∧
        Text.lines (Script.prepare text).toList =
          [] :: entries.map (·.expression.toList ++ [';']) := by
  intro parameters entries
  have hname : Text.isIdentifier "probe" = true := by decide
  have hopen : (Log.open {} "calls.txt").1 = .ok .script := by rfl
  have hnames : ∀ x ∈ entries, Text.isIdentifier x.definition.name = true := by decide
  exact ⟨hname, hopen, hnames, prepare_recorded hname parameters unruly hopen hnames⟩

end VectorScene.Command
