import VectorScene.Proofs.Command.Transcript

/-!
# Calls come to an end

`dispatch` is told how deep calls may nest, and from outside that is more than any call takes. So
the number has no part in what a call does. Here that is told once more without it, by a relation
whose derivations are finite trees of calls; and every call of the built-in table has its tree.

Calls of built-in commands nest for two reasons. A composite runs a target, and targets make no
calls. A command list runs its calls, and each of these is shorter than the text of the list, in its
name and in every string of its arguments, however deep in lists of values that stands.

## Main definitions

* `Value.Holds`, `Args.Holds`: the strings in a value, and in arguments
* `Call.Starts`: the calls that a call may make
* `Dispatched`, `Handler.Ran`: what calls and handlers do, however deep calls nest
* `Happening.Traced`: trees in which every call is one that the call around it may make

## Main results

* `Call.wellFounded_starts`: calls do not start further ones forever
* `Dispatched.dispatch`: `dispatch` does what the relation says, if it may nest deep enough
* `Engine.dispatched`, `Engine.traced`: the tree of a call
* `calls_terminate`: all of it
-/

namespace VectorScene.Command

/-! ### The strings of a call -/

/-- A string is in a value, however deep. -/
inductive Value.Holds : Value → String → Prop where
  | here (s : String) : Holds (.string s) s
  | item {items : List Value} {v : Value} {s : String} : v ∈ items → Holds v s →
    Holds (.list items) s

theorem Value.Holds.le_longest {v : Value} {s : String} (h : v.Holds s) :
    s.utf8ByteSize ≤ v.longest := by
  induction h with
  | here s => exact Nat.le_refl _
  | item hmem _ ih => exact Nat.le_trans ih (longest_le_longestOf hmem)

/-- A string is in an argument, however deep. -/
def Args.Holds (args : Args) (s : String) : Prop := ∃ entry ∈ args.entries, entry.2.Holds s

theorem Args.Holds.le_longest {args : Args} {s : String} (h : args.Holds s) :
    s.utf8ByteSize ≤ args.longest := by
  obtain ⟨entry, hentry, hs⟩ := h
  exact Nat.le_trans hs.le_longest
    (Value.longest_le_longestOf (List.mem_map_of_mem (f := (·.2)) hentry))

/-! ### Calls that start calls -/

theorem Builtin.targets_subset : ∀ t ∈ Builtin.targets, t ∈ Builtin.all := by
  simp [Builtin.targets, Builtin.all, Builtin.entitiesCommands, Builtin.editingCommands]

namespace Call

/-- A call may make another one: its arguments pass the check, and in some scene its command settles
on a plan with that call. -/
def Starts (c k : Call) : Prop :=
  ∃ b ∈ Builtin.all, b.definition.name = c.name ∧ c.args.Fit b.definition.parameters ∧
    ∃ view plan, b.plan view c.args.present = .ok plan ∧ k ∈ plan.calls

variable {c k : Call}

/-- The call of a list starts the calls of the list. -/
theorem Starts.mem_items (h : c.Starts k) (hc : c.name = "runJsonCommandList") : k ∈ c.items := by
  obtain ⟨b, hb, hname, -, view, plan, hplan, hk⟩ := h
  obtain rfl := Builtin.eq_of_name hb Builtin.runJsonCommandList_mem (hname.trans hc)
  obtain rfl := Builtin.runJsonCommandList_calls hc view plan hplan
  exact hk

/-- Other calls start targets only. -/
theorem Starts.target (h : c.Starts k) (hc : c.name ≠ "runJsonCommandList") :
    ∃ t ∈ Builtin.targets, k.name = t.definition.name := by
  obtain ⟨b, hb, hname, hfit, view, plan, hplan, hk⟩ := h
  exact Builtin.calls_target hb (hname ▸ hc) hfit hplan hk

/-- Targets start nothing. -/
theorem not_starts_of_target {t : Builtin} (ht : t ∈ Builtin.targets)
    (hc : c.name = t.definition.name) (k : Call) : ¬c.Starts k := by
  rintro ⟨b, hb, hname, -, view, plan, hplan, hk⟩
  obtain rfl := Builtin.eq_of_name hb (Builtin.targets_subset t ht) (hname.trans hc)
  rw [Builtin.targets_calls b ht view _ plan hplan] at hk
  cases hk

/-- **Calls do not start further ones forever.** -/
theorem wellFounded_starts : WellFounded fun k c : Call => c.Starts k := by
  have htarget : ∀ {t : Builtin} {c : Call}, t ∈ Builtin.targets → c.name = t.definition.name →
      Acc (fun k c : Call => c.Starts k) c :=
    fun ht hc => ⟨_, fun k hk => absurd hk (not_starts_of_target ht hc k)⟩
  -- lists by their longest argument; what other calls start, starts nothing
  have hbounded : ∀ n, ∀ c : Call, c.args.longest < n →
      Acc (fun k c : Call => c.Starts k) c := by
    intro n
    induction n with
    | zero => exact fun c h => absurd h (Nat.not_lt_zero _)
    | succ n ih =>
      refine fun c h => ⟨_, fun k hk => ?_⟩
      by_cases hc : c.name = "runJsonCommandList"
      · have hshorter := items_shorter (hk.mem_items hc)
        exact ih k (by omega)
      · obtain ⟨t, ht, hname⟩ := hk.target hc
        exact htarget ht hname
  exact ⟨fun c => hbounded _ c (Nat.lt_succ_self _)⟩

end Call

/-! ### What calls do, without a bound -/

mutual

/-- What a call comes to, with what happens in it, however deep calls nest. -/
inductive Dispatched (table : Table) :
    Bool → Call → Engine → List Happening → Except Error Value × Engine → Prop where
  | unknown {surface : Bool} {c : Call} {e : Engine} : table.get? c.name = none →
    Dispatched table surface c e [] (.ok (unknownCommand c.name), e)
  | refused {surface : Bool} {c : Call} {e : Engine} {command : VectorScene.Command}
    {fault : Error} : table.get? c.name = some command →
    c.args.validate command.definition.parameters = .error fault →
    Dispatched table surface c e [] (.error fault, e)
  | handled {surface : Bool} {c : Call} {e : Engine} {command : VectorScene.Command} {args : Args}
    {inner : List Happening} {x : Except Error Value × Engine} :
    table.get? c.name = some command →
    c.args.validate command.definition.parameters = .ok args →
    Handler.Ran table (command.handler args) e inner x →
    Dispatched table surface c e inner (conclude command.definition surface args x.1 x.2)

/-- What the steps of a handler come to, with what happens in them. -/
inductive Handler.Ran (table : Table) :
    Handler → Engine → List Happening → Except Error Value × Engine → Prop where
  | done {result : Except Error Value} {e : Engine} : Handler.Ran table (.done result) e [] (result, e)
  | look {next : View → Handler} {e : Engine} {inner : List Happening}
    {x : Except Error Value × Engine} : Handler.Ran table (next (e.view table.definitions)) e inner x →
    Handler.Ran table (.look next) e inner x
  | change {step : Workspace → Except Scene.Error Value × Workspace}
    {next : Except Scene.Error Value → Handler} {e : Engine} {inner : List Happening}
    {x : Except Error Value × Engine} :
    Handler.Ran table (next (step e.workspace).1) (e.withWorkspace (step e.workspace).2) inner x →
    Handler.Ran table (.change step next) e inner x
  | clearHistory {next : Handler} {e : Engine} {inner : List Happening}
    {x : Except Error Value × Engine} : Handler.Ran table next { e with history := [] } inner x →
    Handler.Ran table (.clearHistory next) e (.cleared :: inner) x
  | print {text : String} {next : Handler} {e : Engine} {inner : List Happening}
    {x : Except Error Value × Engine} : Handler.Ran table next (e.report (.info text)) inner x →
    Handler.Ran table (.print text next) e inner x
  | call {surface : Bool} {c : Call} {next : Except Error Value → Handler} {e : Engine}
    {inner rest : List Happening} {x y : Except Error Value × Engine} :
    Dispatched table surface c e inner x → Handler.Ran table (next x.1) x.2 rest y →
    Handler.Ran table (.call surface c next) e (.called c x.1 inner :: rest) y

end

mutual

/-- **`dispatch` does what the relation says**, if calls may nest deep enough. -/
theorem Dispatched.dispatch {table : Table} {surface : Bool} {c : Call} {e : Engine}
    {inner : List Happening} {x : Except Error Value × Engine} :
    Dispatched table surface c e inner x →
      ∃ n, ∀ depth ≥ n, Command.dispatch table depth surface c e = x ∧
        inside table depth c e = inner
  | .unknown hget => by
    refine ⟨1, fun depth h => ?_⟩
    obtain ⟨depth, rfl⟩ : ∃ n, depth = n + 1 := ⟨depth - 1, by omega⟩
    rw [Command.dispatch, inside]
    simp only [hget, and_self]
  | .refused hget hv => by
    refine ⟨1, fun depth h => ?_⟩
    obtain ⟨depth, rfl⟩ : ∃ n, depth = n + 1 := ⟨depth - 1, by omega⟩
    rw [Command.dispatch, inside]
    simp only [hget, hv, and_self]
  | .handled hget hv hran => by
    obtain ⟨n, hn⟩ := hran.run
    refine ⟨n + 1, fun depth h => ?_⟩
    obtain ⟨depth, rfl⟩ : ∃ n, depth = n + 1 := ⟨depth - 1, by omega⟩
    obtain ⟨hrun, hinside⟩ := hn depth (by omega)
    rw [Command.dispatch, inside]
    simp only [hget, hv, hrun, hinside, and_self]

/-- So do the steps of handlers. -/
theorem Handler.Ran.run {table : Table} {h : Handler} {e : Engine} {inner : List Happening}
    {x : Except Error Value × Engine} :
    h.Ran table e inner x →
      ∃ n, ∀ depth ≥ n, h.run (Command.dispatch table depth) table.definitions e = x ∧
        h.happenings (Command.dispatch table depth) (inside table depth) table.definitions e = inner
  | .done => ⟨0, fun _ _ => ⟨rfl, rfl⟩⟩
  | .look hran => hran.run
  | .change hran => hran.run
  | .clearHistory hran => by
    obtain ⟨n, hn⟩ := hran.run
    refine ⟨n, fun depth h => ?_⟩
    obtain ⟨hrun, hinside⟩ := hn depth h
    exact ⟨hrun, congrArg _ hinside⟩
  | .print hran => hran.run
  | .call hcall hran => by
    obtain ⟨n, hn⟩ := hcall.dispatch
    obtain ⟨m, hm⟩ := hran.run
    refine ⟨max n m, fun depth h => ?_⟩
    obtain ⟨hdispatch, hinner⟩ := hn depth (by omega)
    obtain ⟨hrun, hinside⟩ := hm depth (by omega)
    simp only [Handler.run, Handler.happenings, hdispatch, hinner, hrun, hinside, and_self]

end

/-! ### The tree of a call -/

section Plans

variable {table : Table} {runCall : Bool → Call → Engine → Except Error Value × Engine}
  {inner : Call → Engine → List Happening}

theorem Handler.ran_collect {surface : Bool} {calls : List Call}
    (hcalls : ∀ k ∈ calls, ∀ surface e,
      Dispatched table surface k e (inner k e) (runCall surface k e))
    {next : List Value → Handler} (hnext : ∀ vs, ∃ result, next vs = .done result) (e : Engine) :
    (collect surface calls next).Ran table e
      ((collect surface calls next).happenings runCall inner table.definitions e)
      ((collect surface calls next).run runCall table.definitions e) := by
  induction calls generalizing next e with
  | nil =>
    obtain ⟨result, hdone⟩ := hnext []
    rw [collect, hdone]
    exact .done
  | cons k rest ih =>
    obtain ⟨hk, hrest⟩ := List.forall_mem_cons.1 hcalls
    simp only [collect, run, happenings]
    refine .call (hk surface e) ?_
    cases (runCall surface k e).1 with
    | error fault => exact .done
    | ok v => exact ih hrest (fun vs => hnext (v :: vs)) _

/-- The steps of a plan have their trees if its calls do. -/
theorem Plan.ran {plan : Plan}
    (hcalls : ∀ k ∈ plan.calls, ∀ surface e,
      Dispatched table surface k e (inner k e) (runCall surface k e)) (e : Engine) :
    plan.handler.Ran table e (plan.handler.happenings runCall inner table.definitions e)
      (plan.handler.run runCall table.definitions e) := by
  cases plan with
  | answer result => exact .done
  | change c => exact .change .done
  | forget result => exact .clearHistory .done
  | reset forgets =>
    cases forgets with
    | false => exact .change .done
    | true => exact .clearHistory (.change .done)
  | delegate c => exact .call (hcalls c (List.mem_singleton_self c) false e) .done
  | replay calls => exact Handler.ran_collect hcalls (fun _ => ⟨_, rfl⟩) e

/-- The steps of a command are those of the plan that it settles on. -/
theorem Builtin.ran_plan {b : Builtin} {args : Args} {e : Engine} {plan : Plan}
    {happened : List Happening} {x : Except Error Value × Engine}
    (hp : b.plan e.builtinView args = .ok plan)
    (hran : plan.handler.Ran Table.builtin e happened x) :
    (b.command.handler args).Ran Table.builtin e happened x := by
  have hview : b.plan (e.view Table.builtin.definitions) args = .ok plan := hp
  refine .look ?_
  simp only [hview]
  exact hran

/-- A command that settles on none does nothing. -/
theorem Builtin.ran_error {b : Builtin} {args : Args} {e : Engine} {fault : Error}
    (hp : b.plan e.builtinView args = .error fault) :
    (b.command.handler args).Ran Table.builtin e [] (.error fault, e) := by
  have hview : b.plan (e.view Table.builtin.definitions) args = .error fault := hp
  refine .look ?_
  simp only [hview]
  exact .done

/-- What happens in a list is that its calls are made. -/
theorem Handler.mem_happenings_collect {surface : Bool} {calls : List Call}
    {next : List Value → Handler} (hnext : ∀ vs, ∃ result, next vs = .done result) {e : Engine}
    {h : Happening}
    (hmem : h ∈ (collect surface calls next).happenings runCall inner table.definitions e) :
    ∃ k ∈ calls, ∃ e, h = .called k (runCall surface k e).1 (inner k e) := by
  induction calls generalizing next e with
  | nil =>
    obtain ⟨result, hdone⟩ := hnext []
    rw [collect, hdone] at hmem
    cases hmem
  | cons k rest ih =>
    rcases List.mem_cons.1 hmem with rfl | hmem
    · exact ⟨k, List.mem_cons_self, e, rfl⟩
    · cases hresult : (runCall surface k e).1 with
      | error fault =>
        rw [hresult] at hmem
        cases hmem
      | ok v =>
        rw [hresult] at hmem
        obtain ⟨k', hk', hcalled⟩ := ih (fun vs => hnext (v :: vs)) hmem
        exact ⟨k', List.mem_cons_of_mem k hk', hcalled⟩

/-- What happens in the steps of a plan is that its calls are made, or the history is cleared. -/
theorem Plan.mem_happenings {plan : Plan} {e : Engine} {h : Happening}
    (hmem : h ∈ plan.handler.happenings runCall inner table.definitions e) :
    h = .cleared ∨ ∃ k ∈ plan.calls, ∃ surface e,
      h = .called k (runCall surface k e).1 (inner k e) := by
  cases plan with
  | answer result => cases hmem
  | change c => cases hmem
  | forget result => exact .inl (List.mem_singleton.1 hmem)
  | reset forgets =>
    cases forgets with
    | false => cases hmem
    | true => exact .inl (List.mem_singleton.1 hmem)
  | delegate c =>
    exact .inr ⟨c, List.mem_singleton_self c, false, e, List.mem_singleton.1 hmem⟩
  | replay calls =>
    obtain ⟨k, hk, e, hcalled⟩ := Handler.mem_happenings_collect (fun _ => ⟨_, rfl⟩) hmem
    exact .inr ⟨k, hk, true, e, hcalled⟩

end Plans

/-- What happens in a call from outside. -/
def Call.inner (c : Call) (e : Engine) : List Happening :=
  inside Table.builtin (c.args.longest + Engine.nestingLimit) c e

theorem Engine.call_eq_dispatch (e : Engine) (surface : Bool) (c : Call) :
    e.call Table.builtin surface c =
      dispatch Table.builtin (c.args.longest + 999 + 1) surface c e := by
  rw [Engine.call, nestingLimit]

theorem Call.inner_eq_inside (c : Call) (e : Engine) :
    c.inner e = inside Table.builtin (c.args.longest + 999 + 1) c e := by
  rw [Call.inner, Engine.nestingLimit]

/-- With room for one call more than for the lists in the arguments, what a call starts does what it
does from outside. -/
theorem Call.Starts.dispatch {c k : Call} (h : c.Starts k) {depth : Nat}
    (hdepth : c.args.longest + 1 ≤ depth) (surface : Bool) (e : Engine) :
    Command.dispatch Table.builtin depth surface k e = e.call Table.builtin surface k ∧
      inside Table.builtin depth k e = k.inner e := by
  by_cases hc : c.name = "runJsonCommandList"
  · have hshorter := items_shorter (h.mem_items hc)
    exact Engine.dispatch_eq_call (by omega) surface e
  · -- a target makes no calls, whatever its arguments are
    obtain ⟨t, ht, hname⟩ := h.target hc
    have hone : ∀ n, Command.dispatch Table.builtin (n + 1) surface k e =
          Command.dispatch Table.builtin 1 surface k e ∧
        inside Table.builtin (n + 1) k e = inside Table.builtin 1 k e := by
      intro n
      induction n with
      | zero => exact ⟨rfl, rfl⟩
      | succ n ih =>
        obtain ⟨hrun, hinside⟩ := target_deep ht hname n surface e
        exact ⟨hrun.trans ih.1, hinside.trans ih.2⟩
    obtain ⟨n, rfl⟩ : ∃ n, depth = n + 1 := ⟨depth - 1, by omega⟩
    obtain ⟨hrun, hinside⟩ := hone n
    obtain ⟨hrun', hinside'⟩ := hone (k.args.longest + 999)
    exact ⟨hrun.trans hrun'.symm, hinside.trans hinside'.symm⟩

/-! ### Plans that are carried out from outside -/

/-- A plan that is carried out by calls from outside. -/
def Plan.enact (plan : Plan) (e : Engine) : Except Error Value × Engine :=
  plan.handler.run (fun surface k e => e.call Table.builtin surface k) Table.builtin.definitions e

/-- What happens in a plan that is carried out by calls from outside. -/
def Plan.inner (plan : Plan) (e : Engine) : List Happening :=
  plan.handler.happenings (fun surface k e => e.call Table.builtin surface k) Call.inner
    Table.builtin.definitions e

namespace Call

/-- The arguments of a call pass the check, and its command settles on a plan. -/
structure Settles (c : Call) (e : Engine) (b : Builtin) (plan : Plan) : Prop where
  mem : b ∈ Builtin.all
  name : b.definition.name = c.name
  fit : c.args.Fit b.definition.parameters
  plan : b.plan e.builtinView c.args.present = .ok plan

variable {c k : Call} {e : Engine} {b : Builtin} {plan : Plan}

theorem Settles.get (h : c.Settles e b plan) : Table.builtin.get? c.name = some b.command := by
  rw [← h.name]
  exact Table.builtin_get?_self h.mem

theorem Settles.starts (h : c.Settles e b plan) (hk : k ∈ plan.calls) : c.Starts k :=
  ⟨b, h.mem, h.name, h.fit, _, plan, h.plan, hk⟩

/-- **The equation of a call** from outside, which is not told how deep calls may nest. -/
theorem Settles.outer (h : c.Settles e b plan) (surface : Bool) :
    e.call Table.builtin surface c =
        conclude b.definition surface c.args.present (plan.enact e).1 (plan.enact e).2 ∧
      c.inner e = plan.inner e := by
  have hcalls : ∀ k ∈ plan.calls, ∀ surface e,
      Command.dispatch Table.builtin (c.args.longest + 999) surface k e =
          e.call Table.builtin surface k ∧
        inside Table.builtin (c.args.longest + 999) k e = k.inner e :=
    fun k hk => (h.starts hk).dispatch (by omega)
  obtain ⟨hrun, hinner⟩ := plan.congr Table.builtin.definitions
    (fun k hk surface e => (hcalls k hk surface e).1) (fun k hk e => (hcalls k hk false e).2) e
  rw [e.call_eq_dispatch, c.inner_eq_inside, dispatch_builtin h.get, inside_builtin h.get]
  simp only [h.fit.validate, Builtin.settle, h.plan, Plan.perform, hrun, hinner]
  exact ⟨rfl, rfl⟩

/-- A call of which nothing comes but an error, or the words for it. -/
theorem settles_or_idle (c : Call) (e : Engine) :
    (∃ b plan, c.Settles e b plan) ∨
      c.inner e = [] ∧ ∀ surface, (e.call Table.builtin surface c).2.workspace = e.workspace := by
  simp only [e.call_eq_dispatch, c.inner_eq_inside]
  cases hget : Table.builtin.get? c.name with
  | none =>
    refine .inr ⟨?_, fun surface => ?_⟩
    · rw [inside]
      simp only [hget]
    · rw [dispatch_unknown hget]
  | some command =>
    obtain ⟨b, hb, rfl, hname⟩ := Table.builtin_get? hget
    cases hv : c.args.validate b.definition.parameters with
    | error fault =>
      refine .inr ⟨?_, fun surface => ?_⟩
      · rw [inside_builtin hget]
        simp only [hv]
      · rw [dispatch_builtin hget]
        simp only [hv]
    | ok args =>
      obtain rfl := validate_ok hv
      cases hp : b.plan e.builtinView c.args.present with
      | ok plan => exact .inl ⟨b, plan, hb, hname, Args.validate_fit hv, hp⟩
      | error fault =>
        refine .inr ⟨?_, fun surface => ?_⟩
        · rw [inside_builtin hget]
          simp only [hv, hp]
        · rw [dispatch_builtin hget]
          simp only [hv, Builtin.settle, hp, conclude_workspace]

end Call

/-! ### Every call -/

/-- **Every call** of the built-in table has its tree. -/
theorem Engine.dispatched (surface : Bool) (c : Call) (e : Engine) :
    Dispatched Table.builtin surface c e (c.inner e) (e.call Table.builtin surface c) := by
  -- by what the call may start
  induction c using Call.wellFounded_starts.induction generalizing surface e with
  | _ c ih =>
  cases hget : Table.builtin.get? c.name with
  | none =>
    rw [e.call_eq_dispatch, c.inner_eq_inside, dispatch_unknown hget, inside]
    simp only [hget]
    exact .unknown hget
  | some command =>
    obtain ⟨b, hb, rfl, hname⟩ := Table.builtin_get? hget
    cases hv : c.args.validate b.definition.parameters with
    | error fault =>
      rw [e.call_eq_dispatch, c.inner_eq_inside, dispatch_builtin hget, inside_builtin hget]
      simp only [hv]
      exact .refused hget hv
    | ok args =>
      obtain rfl := validate_ok hv
      have hvalid : c.args.validate b.command.definition.parameters = .ok c.args.present := hv
      cases hp : b.plan e.builtinView c.args.present with
      | error fault =>
        rw [e.call_eq_dispatch, c.inner_eq_inside, dispatch_builtin hget, inside_builtin hget]
        simp only [hv, Builtin.settle, hp]
        exact .handled hget hvalid (Builtin.ran_error hp)
      | ok plan =>
        have hsettles : c.Settles e b plan := ⟨hb, hname, Args.validate_fit hv, hp⟩
        obtain ⟨hcall, hinner⟩ := hsettles.outer surface
        rw [hcall, hinner]
        exact .handled hget hvalid (Builtin.ran_plan hp
          (Plan.ran (fun k hk surface e => ih k (hsettles.starts hk) surface e) e))

/-- A tree in which every call is one that the call around it may make. -/
inductive Happening.Traced : Happening → Prop where
  | cleared : Traced .cleared
  | called {c : Call} {result : Except Error Value} {inner : List Happening} :
    (∀ h ∈ inner, Traced h) →
    (∀ k result' inner', .called k result' inner' ∈ inner → c.Starts k) →
    Traced (.called c result inner)

/-- **The tree of a call** follows what calls may start. -/
theorem Engine.traced (surface : Bool) (c : Call) (e : Engine) :
    (Happening.called c (e.call Table.builtin surface c).1 (c.inner e)).Traced := by
  induction c using Call.wellFounded_starts.induction generalizing surface e with
  | _ c ih =>
  -- what happens in the call is that the history is cleared, or that it makes a call
  have hinner : ∀ h ∈ c.inner e, h = .cleared ∨ ∃ k surface e, c.Starts k ∧
      h = .called k (Engine.call Table.builtin surface k e).1 (k.inner e) := by
    intro x hx
    rcases c.settles_or_idle e with ⟨b, plan, hsettles⟩ | ⟨hnone, -⟩
    · rw [(hsettles.outer surface).2] at hx
      rcases Plan.mem_happenings hx with hcleared | ⟨k, hk, surface, e, hcalled⟩
      · exact .inl hcleared
      · exact .inr ⟨k, surface, e, hsettles.starts hk, hcalled⟩
    · rw [hnone] at hx
      cases hx
  refine .called (fun x hx => ?_) fun k result' inner' hmem => ?_
  · rcases hinner x hx with rfl | ⟨k, surface, e, hstarts, rfl⟩
    · exact .cleared
    · exact ih k hstarts surface e
  · rcases hinner _ hmem with hcleared | ⟨k', _, _, hstarts, hcalled⟩
    · cases hcleared
    · cases hcalled
      exact hstarts

/-- A call has one tree and one outcome: those that it has from outside. -/
theorem Dispatched.unique {surface : Bool} {c : Call} {e : Engine} {inner : List Happening}
    {x : Except Error Value × Engine} (h : Dispatched Table.builtin surface c e inner x) :
    inner = c.inner e ∧ x = e.call Table.builtin surface c := by
  obtain ⟨n, hn⟩ := h.dispatch
  obtain ⟨hrun, hinside⟩ := hn (max n (c.args.longest + 2)) (Nat.le_max_left _ _)
  obtain ⟨hrun', hinside'⟩ := Engine.dispatch_eq_call (c := c) (Nat.le_max_right n _) surface e
  exact ⟨hinside.symm.trans hinside', hrun.symm.trans hrun'⟩

/-- **Calls come to an end**, for every command name, all arguments and every engine. What a call
comes to is told by a finite tree of calls, the only one, in which each call is one that the call
around it may make; and no call starts further ones forever. Commands other than the one for lists
make calls of three commands only, and those make none. The command for lists makes the calls that
its text gives, and each of these is shorter than the text, in its name and in every string of its
arguments; so the lists among these strings are shorter too. -/
theorem calls_terminate :
    (∀ surface c (e : Engine),
      Dispatched Table.builtin surface c e (c.inner e) (e.call Table.builtin surface c) ∧
      (∀ inner x, Dispatched Table.builtin surface c e inner x →
        inner = c.inner e ∧ x = e.call Table.builtin surface c) ∧
      (Happening.called c (e.call Table.builtin surface c).1 (c.inner e)).Traced) ∧
    (WellFounded fun k c : Call => c.Starts k) ∧
    (∀ c k : Call, c.name ≠ "runJsonCommandList" → c.Starts k →
      k.name ∈ ["createVector", "updateVector", "updateMatrix"] ∧ ∀ k', ¬k.Starts k') ∧
    (∀ c k : Call, c.name = "runJsonCommandList" → c.Starts k → ∃ text calls,
      c.args.get? "commandList" = some (.string text) ∧ Call.listOfJson text = .ok calls ∧
        k ∈ calls) ∧
    (∀ text calls, Call.listOfJson text = .ok calls → ∀ k ∈ calls,
      k.name.utf8ByteSize < text.utf8ByteSize ∧
        ∀ s, k.args.Holds s → s.utf8ByteSize < text.utf8ByteSize) := by
  refine ⟨fun surface c e => ⟨e.dispatched surface c, fun inner x h => h.unique,
    e.traced surface c⟩, Call.wellFounded_starts, fun c k hc h => ?_, fun c k hc h => ?_,
    fun text calls hcalls k hk => ?_⟩
  · obtain ⟨t, ht, hname⟩ := h.target hc
    refine ⟨?_, Call.not_starts_of_target ht hname⟩
    have htargets : ∀ t ∈ Builtin.targets,
        t.definition.name ∈ ["createVector", "updateVector", "updateMatrix"] := by
      simp [Builtin.targets, Builtin.createVector, Builtin.updateVector, Builtin.updateMatrix]
    rw [hname]
    exact htargets t ht
  · exact Call.of_mem_items (h.mem_items hc)
  · have hbytes := Call.listOfJson_bytes hcalls hk
    simp only [Call.bytes] at hbytes
    refine ⟨by omega, fun s hs => ?_⟩
    have hlongest := hs.le_longest
    omega

end VectorScene.Command
