import VectorScene.Proofs.Command.LogFile

/-!
# The order of recording

A call, the calls that its handler makes, the calls that theirs make, and so on form a tree. A call
is recorded when it is complete, behind everything that its handler did: the entries stand in the
order in which the tree is left. A handler may clear the history on its way; that empties the
history, but the log keeps its lines.

Nothing here depends on the commands in the table, on what their handlers do with the results of
other calls, or on how deep calls nest.

## Main definitions

* `Happening`: what a handler does that recording depends on, as a tree
* `inside`: what the handler of a call does
* `Mark`, `Happening.marks`: the entries and clears of a tree, in order of completion
* `Engine.Took`: the history and the log follow from marks
* `Engine.Past`: the marks on the way from one engine to another, by any number of calls and by what
  is done to the history and the log from outside
* `Engine.Keeps`: the history holds what was recorded since it was cleared, and the log what was
  recorded since it was opened

## Main results

* `Handler.took`: the steps of a handler
* `dispatch_completes`: one call
* `Engine.Past.keeps`: a whole past
* `recorded_on_completion`: both together, for a call that any past precedes
-/

namespace VectorScene.Command

/-! ### The tree of a call -/

/-- What a handler does that recording depends on: it clears the history, or it makes a call, which
comes to a result after what its own handler does. -/
inductive Happening where
  | cleared
  | called (call : Call) (result : Except Error Value) (inner : List Happening)

/-- What happens in the steps of a handler, given how other commands run and what happens in
them. -/
def Handler.happenings (runCall : Bool → Call → Engine → Except Error Value × Engine)
    (inner : Call → Engine → List Happening) (definitions : List Definition) :
    Handler → Engine → List Happening
  | done _, _ => []
  | look next, e => (next (e.view definitions)).happenings runCall inner definitions e
  | change step next, e =>
    (next (step e.workspace).1).happenings runCall inner definitions
      (e.withWorkspace (step e.workspace).2)
  | clearHistory next, e =>
    .cleared :: next.happenings runCall inner definitions { e with history := [] }
  | print text next, e => next.happenings runCall inner definitions (e.report (.info text))
  | call surface c next, e =>
    .called c (runCall surface c e).1 (inner c e) ::
      (next (runCall surface c e).1).happenings runCall inner definitions (runCall surface c e).2

/-- What happens inside a call. An unknown command has no handler, and wrong arguments keep the
handler from running. -/
def inside (table : Table) : Nat → Call → Engine → List Happening
  | 0, _, _ => []
  | depth + 1, c, e =>
    match table.get? c.name with
    | none => []
    | some command =>
      match c.args.validate command.definition.parameters with
      | .error _ => []
      | .ok args =>
        (command.handler args).happenings (dispatch table depth) (inside table depth)
          table.definitions e

/-- A call with its result and what happens inside it. -/
def callTree (table : Table) (depth : Nat) (surface : Bool) (c : Call) (e : Engine) : Happening :=
  .called c (dispatch table depth surface c e).1 (inside table depth c e)

/-! ### Marks in order of completion -/

/-- What the history and the log depend on. -/
inductive Mark where
  | entry (x : Entry)
  | cleared
  | opened (file : String)
  | closed

/-- The entry of a call: there is one if the command is known and comes to a result, and it holds
the arguments that are given. -/
def Table.entry? (table : Table) (c : Call) : Except Error Value → Option Entry
  | .ok _ => (table.get? c.name).map fun command => ⟨command.definition, c.args.present⟩
  | .error _ => none

mutual

/-- The marks of what happens. The entry of a call stands behind the marks inside it. -/
def Happening.marks (table : Table) : Happening → List Mark
  | .cleared => [.cleared]
  | .called c result inner =>
    Happening.marksOf table inner ++ (table.entry? c result).toList.map Mark.entry

/-- The marks of what happens one after another. -/
def Happening.marksOf (table : Table) : List Happening → List Mark
  | [] => []
  | first :: rest => first.marks table ++ Happening.marksOf table rest

end

namespace Mark

/-- The history after a mark. -/
def onHistory (history : List Call) : Mark → List Call
  | entry x => history ++ [x.call]
  | cleared => []
  | opened _ | closed => history

/-- The page of the log after a mark. -/
def onPage (page : Option Page) : Mark → Option Page
  | entry x => page.map (·.extend [x])
  | cleared => page
  | opened file => some (.start file)
  | closed => none

/-- The entry that a mark stands for. -/
def entry? : Mark → Option Entry
  | entry x => some x
  | cleared | opened _ | closed => none

/-- The entries among marks. -/
def entries (marks : List Mark) : List Entry := marks.filterMap entry?

/-- No log is opened or closed. -/
def SameLog (marks : List Mark) : Prop := .closed ∉ marks ∧ ∀ file, .opened file ∉ marks

section Reading

variable {marks : List Mark}

theorem foldl_onHistory (h : .cleared ∉ marks) (history : List Call) :
    marks.foldl onHistory history = history ++ (entries marks).map Entry.call := by
  induction marks generalizing history with
  | nil => simp [entries]
  | cons m rest ih =>
    have hrest : .cleared ∉ rest := fun hmem => h (List.mem_cons_of_mem _ hmem)
    rw [List.foldl_cons, ih hrest]
    cases m with
    | entry x => simp [onHistory, entries, entry?]
    | cleared => exact absurd List.mem_cons_self h
    | opened file => rfl
    | closed => rfl

theorem foldl_onPage (h : SameLog marks) (page : Option Page) :
    marks.foldl onPage page = page.map (·.extend (entries marks)) := by
  induction marks generalizing page with
  | nil => cases page <;> simp [entries]
  | cons m rest ih =>
    obtain ⟨hclosed, hopened⟩ := h
    have hrest : SameLog rest :=
      ⟨fun hmem => hclosed (List.mem_cons_of_mem _ hmem),
        fun file hmem => hopened file (List.mem_cons_of_mem _ hmem)⟩
    rw [List.foldl_cons, ih hrest]
    cases m with
    | entry x =>
      have hsplit : entries (.entry x :: rest) = [x] ++ entries rest := rfl
      cases page with
      | none => rfl
      | some p =>
        rw [hsplit, Option.map_some, Page.extend_append]
        rfl
    | cleared => rfl
    | opened file => exact absurd List.mem_cons_self (hopened file)
    | closed => exact absurd List.mem_cons_self hclosed

end Reading

end Mark

/-! ### What is recorded -/

namespace Engine

/-- The history and the page of the log follow from marks. -/
structure Took (e : Engine) (marks : List Mark) (e' : Engine) : Prop where
  history : e'.history = marks.foldl Mark.onHistory e.history
  page : e'.log.page? = marks.foldl Mark.onPage e.log.page?

variable {e e' e'' : Engine} {marks marks' : List Mark}

theorem Took.nil (hhistory : e'.history = e.history) (hlog : e'.log = e.log) : e.Took [] e' :=
  ⟨hhistory, congrArg Log.page? hlog⟩

theorem Took.trans (h : e.Took marks e') (h' : e'.Took marks' e'') :
    e.Took (marks ++ marks') e'' where
  history := by rw [List.foldl_append, ← h.history, h'.history]
  page := by rw [List.foldl_append, ← h.page, h'.page]

/-- A cleared history. -/
theorem took_cleared (e : Engine) : e.Took [.cleared] { e with history := [] } := ⟨rfl, rfl⟩

/-- A recorded call. -/
theorem took_record (e : Engine) (d : Definition) (surface : Bool) (args : Args)
    (result : Value) : e.Took [.entry ⟨d, args⟩] (e.record d surface args result) where
  history := e.record_history d surface args result
  page := by
    rw [record_log, Log.page?_record]
    rfl

end Engine

/-- **The steps of a handler** leave the marks of what happens in them, if calls do. -/
theorem Handler.took {table : Table}
    {runCall : Bool → Call → Engine → Except Error Value × Engine}
    {inner : Call → Engine → List Happening}
    (hcall : ∀ surface c (e : Engine),
      e.Took ((Happening.called c (runCall surface c e).1 (inner c e)).marks table)
        (runCall surface c e).2)
    (definitions : List Definition) (h : Handler) (e : Engine) :
    e.Took (Happening.marksOf table (h.happenings runCall inner definitions e))
      (h.run runCall definitions e).2 := by
  induction h generalizing e with
  | done result => exact .nil rfl rfl
  | look next ih => exact ih _ e
  | change step next ih =>
    -- the scene and the random numbers have no part in what is recorded
    have hrest := ih (step e.workspace).1 (e.withWorkspace (step e.workspace).2)
    exact ⟨hrest.history, hrest.page⟩
  | clearHistory next ih => exact e.took_cleared.trans (ih _)
  | print text next ih =>
    have hrest := ih (e.report (.info text))
    exact ⟨hrest.history, hrest.page⟩
  | call surface c next ih =>
    -- whatever the handler makes of the result, the marks of the call come first
    exact (hcall surface c e).trans (ih _ _)

/-- What a call leaves behind, given the marks inside it. -/
structure Completes (table : Table) (c : Call) (e : Engine) (inner : List Mark)
    (x : Except Error Value × Engine) : Prop where
  /-- A known command that comes to a result: its own entry is the last mark. -/
  registered : ∀ command v, table.get? c.name = some command → x.1 = .ok v →
    command.definition.name = c.name ∧
      e.Took (inner ++ [.entry ⟨command.definition, c.args.present⟩]) x.2
  /-- An unknown command does nothing. -/
  unknown : table.get? c.name = none → inner = [] ∧ x.2 = e
  /-- A failure is none of a name that is taken or not found. The call has no entry, and the marks
  inside it stay. -/
  failed : ∀ fault, x.1 = .error fault → fault.lookup? = none ∧ e.Took inner x.2

/-- The marks of a complete call. -/
theorem Completes.took {table : Table} {c : Call} {e : Engine} {happenings : List Happening}
    {x : Except Error Value × Engine}
    (h : Completes table c e (Happening.marksOf table happenings) x) :
    e.Took ((Happening.called c x.1 happenings).marks table) x.2 := by
  rw [Happening.marks]
  cases hx : x.1 with
  | error fault =>
    obtain ⟨-, htook⟩ := h.failed fault hx
    simpa [Table.entry?] using htook
  | ok v =>
    cases hget : table.get? c.name with
    | none =>
      obtain ⟨hinner, hsame⟩ := h.unknown hget
      rw [hinner, hsame]
      simpa [Table.entry?, hget] using Engine.Took.nil rfl rfl
    | some command =>
      obtain ⟨-, htook⟩ := h.registered command v hget hx
      simpa [Table.entry?, hget] using htook

/-- A call that does nothing, and does not come to the result of a command. -/
theorem Completes.idle {table : Table} {c : Call} {e : Engine} {x : Except Error Value × Engine}
    (hsame : x.2 = e) (hresult : ∀ command v, table.get? c.name = some command → x.1 ≠ .ok v)
    (hlookup : ∀ fault, x.1 = .error fault → fault.lookup? = none) :
    Completes table c e [] x where
  registered command v hget hok := absurd hok (hresult command v hget)
  unknown _ := ⟨rfl, hsame⟩
  failed fault hfault := ⟨hlookup fault hfault, by rw [hsame]; exact .nil rfl rfl⟩

/-- The end of a call: a result is recorded, and an error changes nothing more. -/
theorem conclude_took (d : Definition) (surface : Bool) (args : Args)
    (result : Except Error Value) (e : Engine) :
    (∀ v, (conclude d surface args result e).1 = .ok v →
      e.Took [.entry ⟨d, args⟩] (conclude d surface args result e).2) ∧
    (∀ fault, (conclude d surface args result e).1 = .error fault →
      (conclude d surface args result e).2 = e) := by
  cases result with
  | ok v => exact ⟨fun _ _ => e.took_record d surface args v, nofun⟩
  | error fault =>
    cases hl : fault.lookup? with
    | none =>
      rw [conclude_fault d surface args hl]
      exact ⟨nofun, fun _ _ => rfl⟩
    | some lookup =>
      -- the words for a name that is taken or not found are a result
      rw [conclude_lookup d surface args hl]
      refine ⟨fun _ _ => ?_, nofun⟩
      have hreport : e.Took [] (e.report (.warning s!"{d.name}: {lookup.message}")) :=
        .nil rfl rfl
      exact hreport.trans (Engine.took_record _ d surface args _)

/-- **One call**, whatever the table and however deep the calls inside it nest. -/
theorem dispatch_completes (table : Table) (depth : Nat) (surface : Bool) (c : Call)
    (e : Engine) :
    Completes table c e (Happening.marksOf table (inside table depth c e))
      (dispatch table depth surface c e) := by
  have hlookup : ∀ fault, (dispatch table depth surface c e).1 = .error fault →
      fault.lookup? = none := fun fault => dispatch_error
  -- induction on the depth, for the calls that the handler makes
  induction depth generalizing surface c e with
  | zero => exact .idle rfl (fun _ _ _ h => by cases h) hlookup
  | succ depth ih =>
    rw [dispatch] at hlookup ⊢
    rw [inside]
    cases hget : table.get? c.name with
    | none =>
      simp only [hget] at hlookup ⊢
      exact .idle rfl (fun command v hsome => by rw [hget] at hsome; cases hsome) hlookup
    | some command =>
      cases hvalid : c.args.validate command.definition.parameters with
      | error fault =>
        -- with wrong arguments the handler does not run
        simp only [hget, hvalid] at hlookup ⊢
        exact .idle rfl (fun _ _ _ h => by cases h) hlookup
      | ok args =>
        obtain rfl := validate_ok hvalid
        simp only [hget, hvalid] at hlookup ⊢
        -- the calls that the handler makes are complete by induction
        have hhandler := Handler.took
          (fun surface c e => (ih surface c e fun fault => dispatch_error).took)
          table.definitions (command.handler c.args.present) e
        obtain ⟨hok, herror⟩ := conclude_took command.definition surface c.args.present
          ((command.handler c.args.present).run (dispatch table depth) table.definitions e).1
          ((command.handler c.args.present).run (dispatch table depth) table.definitions e).2
        refine ⟨?_, ?_, ?_⟩
        · intro command' v hsome hresult
          rw [hget] at hsome
          cases hsome
          have hname : command.name = c.name := by simpa using List.find?_some hget
          exact ⟨hname, hhandler.trans (hok v hresult)⟩
        · intro hnone
          rw [hget] at hnone
          cases hnone
        · intro fault hfault
          refine ⟨hlookup fault hfault, ?_⟩
          rw [herror fault hfault]
          exact hhandler

/-! ### Any number of calls -/

namespace Engine

/-- The marks on the way from one engine to another: by calls of the commands of any tables, by
clearing the history and by opening and closing logs from outside, and by whatever touches neither
the history nor the log. A log file that cannot be opened leaves no log open. -/
inductive Past (start : Engine) : List Mark → Engine → Prop where
  | here : Past start [] start
  | call {past : List Mark} {e : Engine} (table : Table) (depth : Nat) (surface : Bool)
    (c : Call) : Past start past e →
    Past start (past ++ (callTree table depth surface c e).marks table)
      (dispatch table depth surface c e).2
  | clear {past : List Mark} {e : Engine} : Past start past e →
    Past start (past ++ [.cleared]) { e with history := [] }
  | opened {past : List Mark} {e e' : Engine} {file : String} :
    e.openLog file = (.ok (), e') → Past start past e → Past start (past ++ [.opened file]) e'
  | unopened {past : List Mark} {e e' : Engine} {file : String} {fault : Error} :
    e.openLog file = (.error fault, e') → Past start past e → Past start (past ++ [.closed]) e'
  | closeLog {past : List Mark} {e : Engine} : Past start past e →
    Past start (past ++ [.closed]) e.closeLog
  | aside {past : List Mark} {e e' : Engine} : e'.history = e.history → e'.log = e.log →
    Past start past e → Past start past e'

/-- What is in the history and in the log after a past. -/
structure Keeps (start : Engine) (past : List Mark) (e : Engine) : Prop where
  /-- If the history was not cleared, the entries stand behind what was in it. -/
  history : .cleared ∉ past → e.history = start.history ++ (Mark.entries past).map Entry.call
  /-- Otherwise it holds the entries since it was last cleared. -/
  history_cleared : ∀ before after, past = before ++ .cleared :: after → .cleared ∉ after →
    e.history = (Mark.entries after).map Entry.call
  /-- If the log is the one from the start, the lines of all entries stand behind what was in it. -/
  page : Mark.SameLog past →
    e.log.page? = start.log.page?.map (·.extend (Mark.entries past))
  /-- A log that was opened holds the lines of the entries since then. -/
  page_opened : ∀ before file after, past = before ++ .opened file :: after →
    Mark.SameLog after → e.log.page? = some ((Page.start file).extend (Mark.entries after))
  /-- Behind a log that was closed, or that could not be opened, none is open. -/
  page_closed : ∀ before after, past = before ++ .closed :: after → Mark.SameLog after →
    e.log.page? = none
  /-- What the open log holds is what its file holds once it is closed. -/
  file : ∀ page, e.log.page? = some page →
    e.closeLog.log.files.read? page.file = some page.text
  /-- An entry is one line of either format, since names of commands are identifiers. -/
  lines : ∀ x ∈ Mark.entries past, Text.isIdentifier x.definition.name → ∀ format,
    Text.OneLine (x.line format).toList

variable {start e : Engine} {past : List Mark}

theorem Took.keeps (h : start.Took past e) : start.Keeps past e where
  history hcleared := by rw [h.history, Mark.foldl_onHistory hcleared]
  history_cleared before after hpast hafter := by
    -- clearing forgets what was there before
    rw [h.history, hpast, List.foldl_append, List.foldl_cons, Mark.foldl_onHistory hafter]
    rfl
  page hsame := by rw [h.page, Mark.foldl_onPage hsame]
  page_opened before file after hpast hafter := by
    rw [h.page, hpast, List.foldl_append, List.foldl_cons, Mark.foldl_onPage hafter]
    rfl
  page_closed before after hpast hafter := by
    rw [h.page, hpast, List.foldl_append, List.foldl_cons, Mark.foldl_onPage hafter]
    rfl
  file page hpage := Log.read?_close hpage
  lines x _ hname format := Entry.oneLine_line hname format

theorem took_openLog (e : Engine) (file : String) :
    e.Took [match (e.openLog file).1 with | .ok _ => .opened file | .error _ => .closed]
      (e.openLog file).2 := by
  have hpage := e.log.page?_open file
  unfold openLog
  cases hopen : e.log.open file with
  | mk result log =>
    rw [hopen] at hpage
    cases result with
    | error fault => exact ⟨rfl, hpage⟩
    | ok format => exact ⟨rfl, hpage⟩

/-- The history and the log follow from the past. -/
theorem Past.took (h : start.Past past e) : start.Took past e := by
  induction h with
  | here => exact .nil rfl rfl
  | call table depth surface c _ ih =>
    exact ih.trans (dispatch_completes table depth surface c _).took
  | clear _ ih => exact ih.trans (took_cleared _)
  | @opened past e e' file hopen _ ih =>
    have hstep := e.took_openLog file
    rw [hopen] at hstep
    exact ih.trans hstep
  | @unopened past e e' file fault hopen _ ih =>
    have hstep := e.took_openLog file
    rw [hopen] at hstep
    exact ih.trans hstep
  | closeLog _ ih => exact ih.trans ⟨rfl, Log.page?_close _⟩
  | aside hhistory hlog _ ih =>
    have hstep := ih.trans (.nil hhistory hlog)
    rwa [List.append_nil] at hstep

/-- **A whole past.** -/
theorem Past.keeps (h : start.Past past e) : start.Keeps past e := h.took.keeps

end Engine

/-- **Calls are recorded when they are complete.** For every table of commands, a call that comes to
a result is recorded by one entry behind the marks inside it; a call that fails, which is never for
a name that is taken or not found, and a call of an unknown command have no entry, and the marks
inside a call that fails stay. After any past and the call, the history holds the entries since it
was last cleared, and an open log a line for each entry since it was opened. -/
theorem recorded_on_completion {start e : Engine} {past : List Mark} (h : start.Past past e)
    (table : Table) (depth : Nat) (surface : Bool) (c : Call) :
    Completes table c e (Happening.marksOf table (inside table depth c e))
        (dispatch table depth surface c e) ∧
      start.Keeps (past ++ (callTree table depth surface c e).marks table)
        (dispatch table depth surface c e).2 :=
  ⟨dispatch_completes table depth surface c e, (h.call table depth surface c).keeps⟩

/-- A command that makes a note, clears the history and makes a note again: the history holds what
came behind the clearing, and the log all three calls. -/
theorem recorded_on_completion_sweep :
    let note : VectorScene.Command := ⟨{ name := "note" }, fun _ => .done (.ok .absent)⟩
    let sweep : VectorScene.Command := ⟨{ name := "sweep" }, fun _ =>
      .call false ⟨"note", .empty⟩ fun _ => .clearHistory
        (.call false ⟨"note", .empty⟩ fun _ => .done (.ok .absent))⟩
    let table : Table := ⟨[note, sweep]⟩
    let start : Engine := { draws := ⟨fun _ => 0, 0⟩ }
    let e := (start.openLog "calls").2
    let e' := (dispatch table 2 false ⟨"sweep", .empty⟩ e).2
    start.Past [.opened "calls"] e ∧
      e'.history = [⟨"note", .empty⟩, ⟨"sweep", .empty⟩] ∧
      e'.log.page? =
        some ⟨"calls", .script, "# vecviz command log\nnote()\nnote()\nsweep()\n"⟩ := by
  intro note sweep table start e e'
  have hpast : start.Past [.opened "calls"] e := .opened rfl .here
  have hmarks : (callTree table 2 false ⟨"sweep", .empty⟩ e).marks table =
      [.entry ⟨note.definition, .empty⟩, .cleared, .entry ⟨note.definition, .empty⟩,
        .entry ⟨sweep.definition, .empty⟩] := rfl
  obtain ⟨-, hkeeps⟩ := recorded_on_completion hpast table 2 false ⟨"sweep", .empty⟩
  rw [hmarks] at hkeeps
  have hhistory := hkeeps.history_cleared [.opened "calls", .entry ⟨note.definition, .empty⟩]
    [.entry ⟨note.definition, .empty⟩, .entry ⟨sweep.definition, .empty⟩] rfl (by simp)
  have hpage := hkeeps.page_opened [] "calls" _ rfl ⟨by simp, by simp⟩
  refine ⟨hpast, hhistory, hpage.trans ?_⟩
  decide

end VectorScene.Command
