import VectorScene.Proofs.Command.Depth

/-!
# Three ways to run a command list

A command list can be run call by call, as JSON text, and by the command for lists. The three ways
run the same calls, up to the first that fails, with the same results, and leave the same engine but
for two things. On the console, a list that was JSON text shows the calls of its commands that ask
for it, as if they came from a menu. And the command for lists is recorded itself, if its list came
through.

What a call does never depends on the console, nor on whether it counts as called from a menu. So
what is shown of a call follows from the tree of what happens in it.

## Main definitions

* `Happening.shown`: what is shown of a call, given what happens in it
* `Engine.treesOf`: what happens in the calls of a list
* `Stopped`: the calls of a list up to the first that fails, with their results
* `RunsAlike`: what the three ways have in common, and where they differ

## Main results

* `dispatch_shown`: the console has no part in a call
* `runList_shown`: nor in the calls of a list
* `lists_run_alike`: the three ways to run a list
-/

namespace VectorScene.Command

/-! ### What is shown -/

/-- The engine with another console. -/
def Engine.withConsole (e : Engine) (lines : List ConsoleLine) : Engine :=
  { e with console := lines }

/-- What is shown of a call itself, once it has come to a result. -/
def Call.shown (surface : Bool) (c : Call) (result : Except Error Value) : List ConsoleLine :=
  match Table.builtin.entry? c result, result with
  | some x, .ok v => x.shown surface v
  | _, _ => []

/-- Nothing is shown of a call that does not come from a menu. -/
theorem Call.shown_quiet (c : Call) (result : Except Error Value) : c.shown false result = [] := by
  unfold Call.shown Entry.shown
  split <;> rfl

mutual

/-- What is shown of what happens. The calls of a command list count as called from a menu, and
those that other commands make do not; they are shown before the call that makes them. -/
def Happening.shown (surface : Bool) : Happening → List ConsoleLine
  | .cleared => []
  | .called c result inner =>
    Happening.shownOf (c.name == "runJsonCommandList") inner ++ c.shown surface result

/-- What is shown of what happens one after another. -/
def Happening.shownOf (surface : Bool) : List Happening → List ConsoleLine
  | [] => []
  | first :: rest => first.shown surface ++ Happening.shownOf surface rest

end

namespace Engine

variable (e : Engine) (lines lines' : List ConsoleLine)

@[simp] theorem withConsole_console : (e.withConsole lines).console = lines := rfl

@[simp] theorem withConsole_self : e.withConsole e.console = e := rfl

@[simp] theorem withConsole_withConsole :
    (e.withConsole lines).withConsole lines' = e.withConsole lines' := rfl

theorem record_withConsole (d : Definition) (surface : Bool) (args : Args) (v : Value) :
    (e.withConsole lines).record d surface args v =
      (e.record d false args v).withConsole (lines ++ (Entry.mk d args).shown surface v) := by
  unfold record Entry.shown
  simp only [Bool.false_and, Bool.false_eq_true, if_false]
  split
  · rfl
  · rw [List.append_nil]
    rfl

end Engine

/-- The end of a call does not depend on the console; what is shown is added to it. -/
theorem conclude_withConsole (d : Definition) (surface : Bool) (args : Args)
    (result : Except Error Value) (e : Engine) (lines : List ConsoleLine) :
    conclude d surface args result (e.withConsole lines) =
      ((conclude d false args result e).1,
        (conclude d false args result e).2.withConsole (lines ++
          match (conclude d false args result e).1 with
          | .ok v => (Entry.mk d args).shown surface v
          | .error _ => [])) := by
  cases result with
  | ok v =>
    simp only [conclude]
    rw [e.record_withConsole lines d surface args v]
  | error fault =>
    cases hl : fault.lookup? with
    | none =>
      rw [conclude_fault d surface args hl, conclude_fault d false args hl]
      simp only [List.append_nil]
    | some lookup =>
      rw [conclude_lookup d surface args hl, conclude_lookup d false args hl]
      simp only
      exact congrArg _ (Engine.record_withConsole
        (e.report (.warning s!"{d.name}: {lookup.message}")) lines d surface args _)

/-! ### The console has no part -/

/-- A way to run calls on which the console has no part: what is shown is added to it. -/
def Unobserving (runCall : Bool → Call → Engine → Except Error Value × Engine)
    (inner : Call → Engine → List Happening) : Prop :=
  ∀ surface c (e : Engine) lines,
    runCall surface c (e.withConsole lines) =
        ((runCall false c e).1, (runCall false c e).2.withConsole
          (lines ++ (Happening.called c (runCall false c e).1 (inner c e)).shown surface)) ∧
      inner c (e.withConsole lines) = inner c e

section Unobserving

variable {runCall : Bool → Call → Engine → Except Error Value × Engine}
  {inner : Call → Engine → List Happening} {definitions : List Definition}

theorem Unobserving.self (h : Unobserving runCall inner) (surface : Bool) (c : Call) (e : Engine) :
    (runCall surface c e).1 = (runCall false c e).1 ∧
      ∃ lines, (runCall surface c e).2 = (runCall false c e).2.withConsole lines := by
  have hrun := (h surface c e e.console).1
  rw [Engine.withConsole_self] at hrun
  rw [hrun]
  exact ⟨rfl, _, rfl⟩

/-- What a handler does is seen from what it shows. -/
structure Handler.Shows (runCall : Bool → Call → Engine → Except Error Value × Engine)
    (inner : Call → Engine → List Happening) (definitions : List Definition) (surface : Bool)
    (h : Handler) (e : Engine) (lines : List ConsoleLine) : Prop where
  run : h.run runCall definitions (e.withConsole lines) =
    ((h.run runCall definitions e).1, (h.run runCall definitions e).2.withConsole
      (lines ++ Happening.shownOf surface (h.happenings runCall inner definitions e)))
  happenings : h.happenings runCall inner definitions (e.withConsole lines) =
    h.happenings runCall inner definitions e

/-- A handler that makes a call shows the call before what follows it. -/
theorem Handler.Shows.call (hcall : Unobserving runCall inner) {surface : Bool} {c : Call}
    {next : Except Error Value → Handler} {e : Engine} {lines : List ConsoleLine}
    (hnext : ∀ (result : Except Error Value) (e : Engine) lines,
      (next result).Shows runCall inner definitions surface e lines) :
    (Handler.call surface c next).Shows runCall inner definitions surface e lines := by
  obtain ⟨hrun, hinner⟩ := hcall surface c e lines
  obtain ⟨hresult, shown, hself⟩ := hcall.self surface c e
  have hrest := hnext (runCall false c e).1 ((runCall false c e).2.withConsole shown)
    (lines ++ (Happening.called c (runCall false c e).1 (inner c e)).shown surface)
  obtain ⟨hnextRun, hnextHappenings⟩ := hrest
  rw [Engine.withConsole_withConsole] at hnextRun hnextHappenings
  constructor
  · simp only [Handler.run, Handler.happenings, hrun, hresult, hself]
    rw [hnextRun, Happening.shownOf, List.append_assoc]
  · simp only [Handler.happenings, hrun, hinner, hresult, hself]
    rw [hnextHappenings]

theorem Handler.shows_done (result : Except Error Value) (surface : Bool) (e : Engine)
    (lines : List ConsoleLine) :
    (Handler.done result).Shows runCall inner definitions surface e lines := by
  constructor
  · simp only [Handler.run, Handler.happenings, Happening.shownOf, List.append_nil]
  · rfl

theorem Handler.shows_collect (hcall : Unobserving runCall inner) {surface : Bool}
    {calls : List Call} {next : List Value → Handler}
    (hnext : ∀ vs, ∃ result, next vs = .done result) (e : Engine) (lines : List ConsoleLine) :
    (collect surface calls next).Shows runCall inner definitions surface e lines := by
  induction calls generalizing next e lines with
  | nil =>
    obtain ⟨result, hdone⟩ := hnext []
    rw [collect, hdone]
    exact shows_done result surface e lines
  | cons c rest ih =>
    refine .call hcall fun result e lines => ?_
    cases result with
    | error fault => exact shows_done _ surface e lines
    | ok v => exact ih (fun vs => hnext (v :: vs)) e lines

/-- What a plan does, with the flag that its calls have. -/
theorem Plan.shows (definitions : List Definition) (hcall : Unobserving runCall inner)
    {plan : Plan} {surface : Bool}
    (hdelegate : ∀ c, plan = .delegate c → surface = false)
    (hreplay : ∀ calls, plan = .replay calls → surface = true) (e : Engine)
    (lines : List ConsoleLine) :
    plan.handler.Shows runCall inner definitions surface e lines := by
  -- nothing is shown of a change, or of a history that is cleared
  have hquiet : ∀ h : Handler,
      h.happenings runCall inner definitions (e.withConsole lines) =
        h.happenings runCall inner definitions e →
      Happening.shownOf surface (h.happenings runCall inner definitions e) = [] →
      h.run runCall definitions (e.withConsole lines) =
        ((h.run runCall definitions e).1,
          (h.run runCall definitions e).2.withConsole lines) →
      h.Shows runCall inner definitions surface e lines := by
    intro h hsame hnone hrun
    refine ⟨?_, hsame⟩
    rw [hrun, hnone, List.append_nil]
  cases plan with
  | answer result => exact Handler.shows_done _ surface e lines
  | change c => exact hquiet _ rfl rfl rfl
  | forget result => exact hquiet _ rfl rfl rfl
  | reset forgets => cases forgets <;> exact hquiet _ rfl rfl rfl
  | delegate c =>
    obtain rfl := hdelegate c rfl
    exact .call hcall fun result e lines => Handler.shows_done result false e lines
  | replay calls =>
    obtain rfl := hreplay calls rfl
    exact Handler.shows_collect hcall (fun _ => ⟨_, rfl⟩) e lines

end Unobserving

/-- What is shown of a call that does nothing and is not recorded. -/
theorem Call.shown_of_none {surface : Bool} {c : Call} {result : Except Error Value}
    (h : Table.builtin.entry? c result = none) : c.shown surface result = [] := by
  unfold Call.shown
  simp only [h]

/-- **The console has no part in a call**, nor has the flag that it comes from a menu. What is shown
of the call is added to the console. -/
theorem dispatch_shown (depth : Nat) :
    Unobserving (dispatch Table.builtin depth) (inside Table.builtin depth) := by
  -- induction on the depth, for the calls that the handler makes
  induction depth with
  | zero =>
    intro surface c e lines
    refine ⟨?_, rfl⟩
    have hnone : Table.builtin.entry? c (.error .tooDeep) = none := rfl
    simp only [dispatch, inside, Happening.shown, Happening.shownOf, Call.shown_of_none hnone,
      List.append_nil]
  | succ depth ih =>
    intro surface c e lines
    cases hget : Table.builtin.get? c.name with
    | none =>
      have hentry : ∀ result, Table.builtin.entry? c result = none := by
        intro result
        cases result <;> simp [Table.entry?, hget]
      rw [dispatch_unknown hget, dispatch_unknown hget, inside, inside]
      simp only [hget, Happening.shown, Happening.shownOf, Call.shown_of_none (hentry _),
        List.append_nil, and_self]
    | some command =>
      obtain ⟨b, hb, rfl, hname⟩ := Table.builtin_get? hget
      simp only [dispatch_builtin hget, inside_builtin hget]
      cases hv : c.args.validate b.definition.parameters with
      | error fault =>
        have hnone : Table.builtin.entry? c (.error fault) = none := rfl
        simp only [Happening.shown, Happening.shownOf, Call.shown_of_none hnone, List.append_nil,
          and_self]
      | ok args =>
        obtain rfl := validate_ok hv
        have hview : (e.withConsole lines).builtinView = e.builtinView := rfl
        have hentry : ∀ result : Except Error Value, c.shown surface result = match result with
            | .ok v => (Entry.mk b.definition c.args.present).shown surface v
            | .error _ => [] := by
          intro result
          cases result <;> simp [Call.shown, Table.entry?, hget, Builtin.command]
        simp only [Builtin.settle, hview, Happening.shown, hentry]
        cases hp : b.plan e.builtinView c.args.present with
        | error fault =>
          simp only [conclude_withConsole, Happening.shownOf, List.nil_append, and_self]
        | ok plan =>
          -- only the command for lists makes calls that count as called from a menu
          have hfit := Args.validate_fit hv
          have hdelegate : ∀ k, plan = .delegate k → (c.name == "runJsonCommandList") = false := by
            intro k hk
            refine beq_eq_false_iff_ne.2 fun hlist => ?_
            exact Builtin.list_not_delegate hb (hname.trans hlist) c.args e.builtinView k (hk ▸ hp)
          have hreplay : ∀ calls, plan = .replay calls →
              (c.name == "runJsonCommandList") = true := by
            intro calls hk
            exact beq_iff_eq.2 (hname ▸ Builtin.name_of_replay hb hfit (hk ▸ hp))
          have hshows := Plan.shows Table.builtin.definitions ih hdelegate hreplay e lines
          have hrun := hshows.run
          simp only [Plan.perform, hrun, conclude_withConsole, hshows.happenings,
            List.append_assoc, and_self]

/-! ### The calls of a list -/

namespace Engine

/-- What happens in the calls of a list, up to the first that fails. -/
def treesOf (table : Table) (surface : Bool) : List Call → Engine → List Happening
  | [], _ => []
  | c :: rest, e =>
    callTree table (c.args.longest + nestingLimit) surface c e ::
      match (e.call table surface c).1 with
      | .error _ => []
      | .ok _ => treesOf table surface rest (e.call table surface c).2

end Engine

/-- The calls of a list up to the first that fails, with their results and what happened in them,
and what came of the whole list. -/
inductive Stopped : List Call → List Happening → Except Error (List Value) → Prop where
  | done : Stopped [] [] (.ok [])
  | failed {c : Call} {rest : List Call} {fault : Error} {inner : List Happening} :
    Stopped (c :: rest) [.called c (.error fault) inner] (.error fault)
  | step {c : Call} {rest : List Call} {v : Value} {inner trees : List Happening}
    {result : Except Error (List Value)} : Stopped rest trees result →
    Stopped (c :: rest) (.called c (.ok v) inner :: trees) (result.map (v :: ·))

namespace Engine

/-- A list, one call after the other. -/
theorem runList_cons (table : Table) (surface : Bool) (c : Call) (rest : List Call) (e : Engine) :
    e.runList table surface (c :: rest) =
      match (e.call table surface c).1 with
      | .error fault => (.error fault, (e.call table surface c).2)
      | .ok v =>
        (((e.call table surface c).2.runList table surface rest).1.map (v :: ·),
          ((e.call table surface c).2.runList table surface rest).2) := by
  rw [runList]
  rcases e.call table surface c with ⟨x, e'⟩
  cases x with
  | error fault => rfl
  | ok v =>
    simp only
    rcases e'.runList table surface rest with ⟨y, e''⟩
    cases y <;> rfl

theorem runList_stopped (table : Table) (surface : Bool) (calls : List Call) (e : Engine) :
    Stopped calls (e.treesOf table surface calls) (e.runList table surface calls).1 := by
  induction calls generalizing e with
  | nil => exact .done
  | cons c rest ih =>
    have hresult : (dispatch table (c.args.longest + nestingLimit) surface c e).1 =
        (e.call table surface c).1 := rfl
    rw [runList_cons, treesOf, callTree, hresult]
    cases (e.call table surface c).1 with
    | error fault => exact .failed
    | ok v => exact .step (ih _)

/-- No list stops because a name is taken or not found. -/
theorem runList_error {table : Table} {surface : Bool} {calls : List Call} {e : Engine}
    {fault : Error} (h : (e.runList table surface calls).1 = .error fault) :
    fault.lookup? = none := by
  induction calls generalizing e with
  | nil => cases h
  | cons c rest ih =>
    rw [runList_cons] at h
    cases hcall : (e.call table surface c).1 with
    | error cause =>
      simp only [hcall, Except.error.injEq] at h
      exact h ▸ dispatch_error hcall
    | ok v =>
      simp only [hcall] at h
      cases hrest : ((e.call table surface c).2.runList table surface rest).1 with
      | error cause =>
        simp only [hrest, Except.map, Except.error.injEq] at h
        exact ih (h ▸ hrest)
      | ok vs => simp [hrest, Except.map] at h

/-- **The console has no part in a list.** -/
theorem runList_shown (surface : Bool) (calls : List Call) (e : Engine)
    (lines : List ConsoleLine) :
    (e.withConsole lines).runList Table.builtin surface calls =
        ((e.runList Table.builtin false calls).1,
          (e.runList Table.builtin false calls).2.withConsole
            (lines ++ Happening.shownOf surface (e.treesOf Table.builtin false calls))) ∧
      (e.withConsole lines).treesOf Table.builtin surface calls =
        e.treesOf Table.builtin false calls := by
  induction calls generalizing e lines with
  | nil =>
    simp only [runList, treesOf, Happening.shownOf, List.append_nil, and_self]
  | cons c rest ih =>
    obtain ⟨hrun, hinner⟩ := dispatch_shown (c.args.longest + nestingLimit) surface c e lines
    have hcall : (e.withConsole lines).call Table.builtin surface c = _ := hrun
    have hbase : dispatch Table.builtin (c.args.longest + nestingLimit) false c e =
        e.call Table.builtin false c := rfl
    rw [hbase] at hcall
    simp only [runList_cons, treesOf, callTree, hcall, hrun, hinner, hbase]
    cases hx : (e.call Table.builtin false c).1 with
    | error fault => simp only [Happening.shownOf, List.append_nil, and_self]
    | ok v =>
      obtain ⟨hrest, htrees⟩ := ih (e.call Table.builtin false c).2
        (lines ++ (Happening.called c (.ok v)
          (inside Table.builtin (c.args.longest + nestingLimit) c e)).shown surface)
      simp only [hrest, htrees, Happening.shownOf, List.append_assoc, and_self]

/-- With room for the lists in its arguments, a call does what it does from outside. -/
theorem dispatch_eq_call {c : Call} {depth : Nat} (h : c.args.longest + 2 ≤ depth) (surface : Bool)
    (e : Engine) :
    dispatch Table.builtin depth surface c e = e.call Table.builtin surface c ∧
      inside Table.builtin depth c e =
        inside Table.builtin (c.args.longest + nestingLimit) c e := by
  have hleast : ∀ depth ≥ c.args.longest + 2,
      dispatch Table.builtin depth surface c e =
          dispatch Table.builtin (c.args.longest + 2) surface c e ∧
        inside Table.builtin depth c e = inside Table.builtin (c.args.longest + 2) c e := by
    intro depth h
    induction depth, h using Nat.le_induction with
    | base => exact ⟨rfl, rfl⟩
    | succ depth h ih =>
      obtain ⟨hrun, hinner⟩ := deep h surface e
      exact ⟨hrun.trans ih.1, hinner.trans ih.2⟩
  have hroom := hleast (c.args.longest + nestingLimit) (by simp [nestingLimit])
  exact ⟨(hleast depth h).1.trans hroom.1.symm, (hleast depth h).2.trans hroom.2.symm⟩

end Engine

/-- Calls that a handler makes one after another are the calls of a list. -/
theorem Handler.collect_runList (surface : Bool) {calls : List Call} {depth : Nat}
    (hdepth : ∀ c ∈ calls, c.args.longest + 2 ≤ depth) (next : List Value → Handler)
    (f : List Value → Except Error Value) (hnext : ∀ vs, next vs = .done (f vs)) (e : Engine) :
    (collect surface calls next).run (dispatch Table.builtin depth) Table.builtin.definitions e =
        ((e.runList Table.builtin surface calls).1 >>= f,
          (e.runList Table.builtin surface calls).2) ∧
      (collect surface calls next).happenings (dispatch Table.builtin depth)
        (inside Table.builtin depth) Table.builtin.definitions e =
        e.treesOf Table.builtin surface calls := by
  induction calls generalizing next f e with
  | nil =>
    rw [collect, hnext]
    exact ⟨rfl, rfl⟩
  | cons c rest ih =>
    obtain ⟨hc, hrest⟩ := List.forall_mem_cons.1 hdepth
    obtain ⟨hrun, hinner⟩ := Engine.dispatch_eq_call hc surface e
    have hbase : dispatch Table.builtin (c.args.longest + Engine.nestingLimit) surface c e =
        e.call Table.builtin surface c := rfl
    simp only [collect, run, happenings, hrun, hinner, Engine.runList_cons, Engine.treesOf,
      callTree, hbase]
    cases (e.call Table.builtin surface c).1 with
    | error fault => exact ⟨rfl, rfl⟩
    | ok v =>
      obtain ⟨hsame, htrees⟩ := ih hrest (fun vs => next (v :: vs)) (fun vs => f (v :: vs))
        (fun vs => hnext (v :: vs)) (e.call Table.builtin surface c).2
      refine ⟨hsame.trans ?_, congrArg _ htrees⟩
      cases ((e.call Table.builtin surface c).2.runList Table.builtin surface rest).1 <;> rfl

/-! ### Three ways to run a list -/

/-- The call that runs a list in JSON text. -/
def listCall (text : String) : Call :=
  ⟨"runJsonCommandList", .ofList [("commandList", .string text)]⟩

/-- What comes of a list that is run call by call, as JSON text, and by the command for lists. -/
structure RunsAlike (e : Engine) (text : String) (calls : List Call) (trees : List Happening)
    (result : Except Error (List Value)) (plain json listed : Engine) : Prop where
  /-- The calls run up to the first that fails, which the result is that of. -/
  stopped : Stopped calls trees result
  runList : e.runList Table.builtin false calls = (result, plain)
  runJson : e.runJson Table.builtin text = (result, json)
  execute : e.execute Table.builtin (listCall text) = (result.map .list, listed)
  plain_trees : e.treesOf Table.builtin false calls = trees
  json_trees : e.treesOf Table.builtin true calls = trees
  listed_trees : inside Table.builtin ((listCall text).args.longest + Engine.nestingLimit)
    (listCall text) e = trees
  /-- Call by call, nothing is shown of the calls themselves, but of those in lists inside them. -/
  plain_console : plain.console = e.console ++ Happening.shownOf false trees
  /-- Run as JSON text, the list differs in the console only, where its calls are shown. -/
  json_eq : json = plain.withConsole (e.console ++ Happening.shownOf true trees)
  /-- The command for lists is recorded behind the calls of a list that came through. -/
  listed_ok : ∀ vs, result = .ok vs → listed = { json with
    history := json.history ++ [listCall text]
    log := json.log.record (listCall text)
      (Entry.mk Builtin.runJsonCommandList.definition (listCall text).args).expression }
  /-- It is not recorded if one of them failed. -/
  listed_error : ∀ fault, result = .error fault → listed = json

theorem listCall_longest (text : String) : (listCall text).args.longest = text.utf8ByteSize := by
  simp [listCall, Args.ofList, Args.insert, Args.insertEntry, Args.empty, Args.longest,
    Value.longestOf, Value.longest]

theorem listCall_get? (text : String) : Table.builtin.get? (listCall text).name =
    some Builtin.runJsonCommandList.command := rfl

theorem listCall_validate (text : String) :
    (listCall text).args.validate Builtin.runJsonCommandList.definition.parameters =
      .ok (listCall text).args := rfl

/-- The command for lists replays the list that the text gives. -/
theorem listCall_plan (text : String) (view : View) :
    Builtin.runJsonCommandList.plan view (listCall text).args =
      ((Call.listOfJson text).map .replay).mapError .json := by
  have htext : (listCall text).args.string "commandList" = .ok text := rfl
  simp only [Builtin.runJsonCommandList, htext, bind, Except.bind]
  cases Call.listOfJson text <;> rfl

/-- The call of the command for lists, given what its handler is to do. -/
theorem execute_listCall (e : Engine) (text : String) :
    e.execute Table.builtin (listCall text) =
      conclude Builtin.runJsonCommandList.definition false (listCall text).args
        (Builtin.runJsonCommandList.settle (text.utf8ByteSize + 999) (listCall text).args e).1
        (Builtin.runJsonCommandList.settle (text.utf8ByteSize + 999) (listCall text).args e).2 := by
  rw [Engine.execute, Engine.call, listCall_longest]
  show dispatch Table.builtin (text.utf8ByteSize + 999 + 1) false (listCall text) e = _
  rw [dispatch_builtin (listCall_get? text)]
  simp only [listCall_validate]

section Listed

variable (e : Engine) {text : String} {calls : List Call}

theorem execute_listCall_error {fault : Json.Error} (hlist : Call.listOfJson text = .error fault) :
    e.execute Table.builtin (listCall text) = (.error (.json fault), e) := by
  simp only [execute_listCall, Builtin.settle, listCall_plan, hlist, Except.map, Except.mapError]
  exact conclude_fault _ _ _ rfl _

variable (hlist : Call.listOfJson text = .ok calls)
include hlist

/-- The command for lists leaves room for the calls of its list, which are shorter than its text. -/
theorem listCall_room : ∀ k ∈ calls, k.args.longest + 2 ≤ text.utf8ByteSize + 999 := by
  intro k hk
  have := Call.listOfJson_shorter hlist hk
  omega

/-- The command for lists runs the calls of the list as if they came from a menu. -/
theorem execute_listCall_ok :
    e.execute Table.builtin (listCall text) =
      conclude Builtin.runJsonCommandList.definition false (listCall text).args
        ((e.runList Table.builtin true calls).1 >>= fun vs => .ok (.list vs))
        (e.runList Table.builtin true calls).2 := by
  have hcollect := (Handler.collect_runList true (listCall_room hlist)
    (fun vs => .done (.ok (.list vs))) (fun vs => .ok (.list vs)) (fun _ => rfl) e).1
  simp only [execute_listCall, Builtin.settle, listCall_plan, hlist, Except.map, Except.mapError,
    Plan.perform, Plan.handler, hcollect]

/-- What happens in the command for lists is what happens in the list. -/
theorem inside_listCall :
    inside Table.builtin ((listCall text).args.longest + Engine.nestingLimit) (listCall text) e =
      e.treesOf Table.builtin true calls := by
  rw [listCall_longest]
  show inside Table.builtin (text.utf8ByteSize + 999 + 1) (listCall text) e = _
  rw [inside_builtin (listCall_get? text)]
  simp only [listCall_validate, listCall_plan, hlist]
  exact (Handler.collect_runList true (listCall_room hlist) (fun vs => .done (.ok (.list vs)))
    (fun vs => .ok (.list vs)) (fun _ => rfl) e).2

end Listed

/-- **Three ways to run a list.** A text that is no command list runs nothing, and both ways to run
it give the fault. Any other runs alike. -/
theorem lists_run_alike (e : Engine) (text : String) :
    match Call.listOfJson text with
    | .error fault => e.runJson Table.builtin text = (.error (.json fault), e) ∧
        e.execute Table.builtin (listCall text) = (.error (.json fault), e)
    | .ok calls => ∃ trees result plain json listed,
        RunsAlike e text calls trees result plain json listed := by
  cases hlist : Call.listOfJson text with
  | error fault => exact ⟨by simp only [Engine.runJson, hlist], execute_listCall_error e hlist⟩
  | ok calls =>
    obtain ⟨hquiet, -⟩ := Engine.runList_shown false calls e e.console
    obtain ⟨hshown, htrees⟩ := Engine.runList_shown true calls e e.console
    rw [Engine.withConsole_self] at hquiet hshown htrees
    have hjson : e.runJson Table.builtin text = e.runList Table.builtin true calls := by
      simp only [Engine.runJson, hlist]
    have hresult : (e.runList Table.builtin true calls).1 =
        (e.runList Table.builtin false calls).1 := by rw [hshown]
    -- the command for lists is recorded only if its list came through
    have hok : ∀ vs, (e.runList Table.builtin false calls).1 = .ok vs →
        e.execute Table.builtin (listCall text) =
          (.ok (.list vs), (e.runList Table.builtin true calls).2.record
            Builtin.runJsonCommandList.definition false (listCall text).args (.list vs)) := by
      intro vs hvs
      rw [execute_listCall_ok e hlist, hresult, hvs]
      rfl
    have herror : ∀ fault, (e.runList Table.builtin false calls).1 = .error fault →
        e.execute Table.builtin (listCall text) =
          (.error fault, (e.runList Table.builtin true calls).2) := by
      intro fault hfault
      rw [execute_listCall_ok e hlist, hresult, hfault]
      exact conclude_fault _ _ _ (Engine.runList_error hfault) _
    exact ⟨_, _, _, (e.runList Table.builtin true calls).2,
      (e.execute Table.builtin (listCall text)).2, {
        stopped := e.runList_stopped Table.builtin false calls
        runList := rfl
        runJson := by rw [hjson, hshown]
        execute := by
          cases hruns : (e.runList Table.builtin false calls).1 with
          | ok vs => rw [hok vs hruns]; rfl
          | error fault => rw [herror fault hruns]; rfl
        plain_trees := rfl
        json_trees := htrees
        listed_trees := (inside_listCall e hlist).trans htrees
        plain_console := congrArg (fun x => x.2.console) hquiet
        json_eq := by rw [hshown]
        listed_ok := fun vs hvs => by
          rw [hok vs hvs]
          rfl
        listed_error := fun fault hfault => by rw [herror fault hfault] }⟩

end VectorScene.Command
