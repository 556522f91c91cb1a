import VectorScene.Proofs.Command.Dispatch

/-!
# Calls that fail

A call fails in one of two ways. An error is given back, and then nothing at all has happened. Or a
name is taken or not found, in the command itself or in the one that it runs; then its words are the
result, the call is recorded, and all that was used up are generated names and random numbers.

## Main definitions

* `Handler.recovers`, `recovers`: a call whose result is the words for a name that is taken or not
  found
* `Entry`: what is recorded of a call
* `Engine.Spares`: what such a call leaves behind

## Main results

* `Builtin.Plain.settle_error`: a command that runs no other one
* `dispatch_failure`: every built-in command but the one for command lists
-/

namespace VectorScene.Command

open Scene

/-! ### Calls that recover -/

/-- Whether the steps of a handler end because a name is taken or not found, or run a call that
recovers. -/
def Handler.recovers (runCall : Bool → Call → Engine → Except Error Value × Engine)
    (callRecovers : Call → Engine → Prop) (definitions : List Definition) :
    Handler → Engine → Prop
  | done (.ok _), _ => False
  | done (.error fault), _ => fault.lookup?.isSome
  | look next, e => (next (e.view definitions)).recovers runCall callRecovers definitions e
  | change step next, e =>
    (next (step e.workspace).1).recovers runCall callRecovers definitions
      (e.withWorkspace (step e.workspace).2)
  | clearHistory next, e =>
    next.recovers runCall callRecovers definitions { e with history := [] }
  | print text next, e =>
    next.recovers runCall callRecovers definitions (e.report (.info text))
  | call surface c next, e =>
    callRecovers c e ∨ (next (runCall surface c e).1).recovers runCall callRecovers definitions
      (runCall surface c e).2

/-- Whether the result of a call is the words for a name that is taken or not found, in the command
itself or in one that it runs. -/
def recovers (table : Table) : Nat → Call → Engine → Prop
  | 0, _, _ => False
  | depth + 1, c, e =>
    match table.get? c.name with
    | none => False
    | some command =>
      match c.args.validate command.definition.parameters with
      | .error _ => False
      | .ok args =>
        (command.handler args).recovers (dispatch table depth) (recovers table depth)
          table.definitions e

/-! ### What is recorded -/

/-- What is recorded of a call. -/
structure Entry where
  definition : Definition
  args : Args

namespace Entry

/-- The call in the history. -/
def call (x : Entry) : Call := ⟨x.definition.name, x.args⟩

/-- The expression in the log file and on the console. -/
def expression (x : Entry) : String := callText x.definition.name x.definition.parameters x.args

/-- What is shown of a call from a menu, if its command asks for it. -/
def shown (x : Entry) (surface : Bool) (result : Value) : List ConsoleLine :=
  if surface && x.definition.exposure.echoes then
    [.input x.expression, .output result.display, .prompt]
  else []

end Entry

namespace Engine

/-- What a call leaves behind that recovers: entries in the history and the log, the last of them
its own, what is shown of it, and generated names and random numbers that are used up. -/
structure Spares (e : Engine) (surface : Bool) (inner : List Entry) (own : Entry) (result : Value)
    (e' : Engine) : Prop where
  workspace : e.workspace.Spared e'.workspace
  history : e'.history = e.history ++ (inner ++ [own]).map Entry.call
  log : e'.log = (inner ++ [own]).foldl (fun log x => log.record x.call x.expression) e.log
  console : e'.console = e.console ++ own.shown surface result

theorem record_console (e : Engine) (d : Definition) (surface : Bool) (args : Args)
    (result : Value) :
    (e.record d surface args result).console =
      e.console ++ (Entry.mk d args).shown surface result := by
  unfold record Entry.shown
  simp only
  split
  · rfl
  · simp

theorem record_history (e : Engine) (d : Definition) (surface : Bool) (args : Args)
    (result : Value) :
    (e.record d surface args result).history = e.history ++ [(Entry.mk d args).call] := by
  unfold record
  simp only
  split <;> rfl

theorem record_log (e : Engine) (d : Definition) (surface : Bool) (args : Args)
    (result : Value) :
    (e.record d surface args result).log =
      e.log.record (Entry.mk d args).call (Entry.mk d args).expression := by
  unfold record
  simp only
  split <;> rfl

end Engine

/-! ### Commands that run no other one -/

/-- A plain command that fails leaves the engine as it is, unless a name is taken or not found. -/
theorem Builtin.Plain.settle_error {b : Builtin} (hb : b.Plain fun _ => True) {e : Engine}
    (he : e.Sane) {depth : Nat} {args : Args} {fault : Error}
    (h : (b.settle depth args e).1 = .error fault) :
    (fault.lookup? = none ∧ (b.settle depth args e).2 = e) ∨
      (fault.lookup?.isSome ∧ ∃ w, (b.settle depth args e).2 = e.withWorkspace w ∧
        e.workspace.Spared w) := by
  have hview : e.builtinView.Alike (fun _ => True) e.builtinView := ⟨he, rfl⟩
  obtain ⟨vs, -, hvs, -⟩ := he.vectors.rosters
  have hplan := hb hview args
  have hchange : ∀ c : Change, ((Plan.change c).perform depth e).1 = .error fault →
      fault.lookup?.isSome ∧ ∃ w, ((Plan.change c).perform depth e).2 = e.withWorkspace w ∧
        e.workspace.Spared w := by
    intro c hc
    rw [Plan.perform_change] at hc ⊢
    cases hrun : (c.run e.workspace).1 with
    | ok v => simp [hrun, Except.mapError] at hc
    | error cause =>
      simp only [hrun, Except.mapError, Except.error.injEq] at hc
      obtain ⟨hlookup, hspared⟩ := Change.run_error hvs hrun
      exact ⟨by simp [← hc, Error.lookup?, hlookup], _, rfl, hspared⟩
  unfold Builtin.settle at h ⊢
  generalize b.plan e.builtinView args = x at hplan h ⊢
  cases hplan with
  | error cause =>
    -- the command failed on what it read, before it changed anything
    cases h
    cases hl : fault.lookup? with
    | none => exact .inl ⟨rfl, rfl⟩
    | some lookup => exact .inr ⟨rfl, e.workspace, rfl, .refl _⟩
  | ok hlike =>
    cases hlike with
    | answer _ _ => cases h
    | change _ => exact .inr (hchange _ h)
    | forget _ _ => cases h
    | reset forgets _ =>
      -- the first layout can always be set up
      obtain ⟨s', hs'⟩ := Workspace.reset_ok hvs
      have hok : ∀ e' : Engine, e'.scene = e.scene →
          (Change.reset.run e'.workspace).1 = .ok .absent := by
        intro e' he'
        simp only [Change.run, Engine.workspace, he', hs']
      simp only [Plan.perform_reset, Plan.perform_change] at h
      rw [hok _ (by cases forgets <;> rfl)] at h
      cases h

/-- The words for a name that is taken or not found. -/
theorem Error.lookup?_eq_some {fault : Error} (h : fault.lookup?.isSome) :
    ∃ lookup : Scene.Error, fault = .scene lookup ∧ lookup.isLookup ∧
      fault.lookup? = some lookup := by
  cases fault with
  | scene lookup =>
    by_cases hl : lookup.isLookup
    · exact ⟨lookup, rfl, hl, by simp [Error.lookup?, hl]⟩
    · simp [Error.lookup?, hl] at h
  | _ => simp [Error.lookup?] at h

theorem validate_error {args : Args} {parameters : List Parameter} {fault : Error}
    (h : args.validate parameters = .error fault) : fault.lookup? = none := by
  unfold Args.validate at h
  split at h
  · rename_i hfault
    cases h
    obtain ⟨p, -, hp⟩ := List.exists_of_findSome?_eq_some hfault
    unfold Args.fault? at hp
    split at hp
    · split at hp <;> cases hp
      rfl
    · split at hp <;> cases hp
      rfl
  · cases h

theorem validate_ok {args args' : Args} {parameters : List Parameter}
    (h : args.validate parameters = .ok args') : args' = args.present := by
  unfold Args.validate at h
  split at h
  · cases h
  · exact (Except.ok.inj h).symm

/-- No call gives back that a name is taken or not found. -/
theorem dispatch_error {table : Table} {depth : Nat} {surface : Bool} {c : Call} {e : Engine}
    {fault : Error} (h : (dispatch table depth surface c e).1 = .error fault) :
    fault.lookup? = none := by
  cases depth with
  | zero =>
    cases h
    rfl
  | succ depth =>
    rw [dispatch] at h
    split at h
    · cases h
    · split at h
      · rename_i hv
        cases h
        exact validate_error hv
      · unfold conclude at h
        simp only at h
        split at h
        · cases h
        · split at h
          · cases h
          · rename_i hl
            cases h
            exact hl

/-- A call that ends because a name is taken or not found records itself. -/
theorem conclude_spares {d : Definition} {surface : Bool} {args : Args} {e : Engine}
    {w : Workspace} (hw : e.workspace.Spared w) {fault : Error} (hl : fault.lookup?.isSome) :
    ∃ lookup : Scene.Error, lookup.isLookup ∧
      (conclude d surface args (.error fault) (e.withWorkspace w)).1 =
        .ok (.string lookup.message) ∧
      e.Spares surface [] ⟨d, args⟩ (.string lookup.message)
        (conclude d surface args (.error fault) (e.withWorkspace w)).2 := by
  obtain ⟨lookup, -, hlookup, hl⟩ := Error.lookup?_eq_some hl
  refine ⟨lookup, hlookup, ?_, ?_⟩
  · rw [conclude_lookup d surface args hl]
  · rw [conclude_lookup d surface args hl]
    refine ⟨?_, ?_, ?_, ?_⟩
    · rw [Engine.record_workspace]
      exact hw
    · exact Engine.record_history _ d surface args _
    · exact Engine.record_log _ d surface args _
    · exact Engine.record_console _ d surface args _

/-- Whether a built-in command recovers once its arguments have been checked. -/
theorem recovers_builtin {b : Builtin} {c : Call}
    (hb : Table.builtin.get? c.name = some b.command) (depth : Nat) (e : Engine) :
    recovers Table.builtin (depth + 1) c e ↔
      ∃ args, c.args.validate b.definition.parameters = .ok args ∧
        match b.plan e.builtinView args with
        | .error fault => fault.lookup?.isSome
        | .ok plan => plan.handler.recovers (dispatch Table.builtin depth)
            (recovers Table.builtin depth) Table.builtin.definitions e := by
  have hdefinition : b.command.definition = b.definition := rfl
  rw [recovers]
  simp only [hb, hdefinition]
  cases c.args.validate b.definition.parameters with
  | error fault => simp
  | ok args =>
    simp only [Except.ok.injEq, exists_eq_left', Builtin.command, Handler.recovers]
    rw [Engine.builtinView]
    cases b.plan (e.view Table.builtin.definitions) args with
    | error fault => simp [Handler.recovers]
    | ok plan => rfl

namespace Plan

variable {depth : Nat} {e : Engine}

/-- A change recovers just if it fails because a name is taken or not found. -/
theorem recovers_change {c : Change} :
    (Plan.change c).handler.recovers (dispatch Table.builtin depth)
        (recovers Table.builtin depth) Table.builtin.definitions e ↔
      ∃ fault, ((Plan.change c).perform depth e).1 = .error fault ∧ fault.lookup?.isSome := by
  rw [Plan.perform_change]
  -- nothing follows the change
  change Handler.recovers _ _ _ (.done ((c.run e.workspace).1.mapError .scene)) _ ↔ _
  cases (c.run e.workspace).1 with
  | ok v => exact ⟨False.elim, fun ⟨_, h, _⟩ => by cases h⟩
  | error fault => exact ⟨fun h => ⟨_, rfl, h⟩, fun ⟨_, h, hl⟩ => by cases h; exact hl⟩

/-- A plan that runs another command recovers just if that one does. -/
theorem recovers_delegate {c : Call} :
    (Plan.delegate c).handler.recovers (dispatch Table.builtin depth)
        (recovers Table.builtin depth) Table.builtin.definitions e ↔
      recovers Table.builtin depth c e := by
  change recovers Table.builtin depth c e ∨
    Handler.recovers _ _ _ (.done (dispatch Table.builtin depth false c e).1) _ ↔ _
  refine ⟨fun h => h.resolve_right fun hdone => ?_, .inl⟩
  cases hrun : (dispatch Table.builtin depth false c e).1 with
  | ok v =>
    rw [hrun] at hdone
    exact hdone
  | error fault =>
    rw [hrun] at hdone
    have hlookup : fault.lookup?.isSome := hdone
    rw [dispatch_error hrun] at hlookup
    cases hlookup

end Plan

/-- A plain command that recovers fails because a name is taken or not found. -/
theorem Builtin.Plain.error_of_recovers {b : Builtin} (hb : b.Plain fun _ => True) {e : Engine}
    (he : e.Sane) {c : Call} (hget : Table.builtin.get? c.name = some b.command) {depth : Nat}
    (h : recovers Table.builtin (depth + 1) c e) :
    ∃ args fault, c.args.validate b.definition.parameters = .ok args ∧
      (b.settle depth args e).1 = .error fault ∧ fault.lookup?.isSome := by
  have hview : e.builtinView.Alike (fun _ => True) e.builtinView := ⟨he, rfl⟩
  obtain ⟨args, hargs, h⟩ := (recovers_builtin hget depth e).1 h
  have hplan := hb hview args
  refine ⟨args, ?_⟩
  unfold Builtin.settle
  generalize b.plan e.builtinView args = x at hplan h ⊢
  cases hplan with
  | error fault => exact ⟨fault, hargs, rfl, h⟩
  | ok hlike =>
    cases hlike with
    | answer _ _ => exact absurd h id
    | change _ =>
      obtain ⟨fault, hfault, hl⟩ := Plan.recovers_change.1 h
      exact ⟨fault, hargs, hfault, hl⟩
    | forget _ _ => exact absurd h id
    | reset forgets _ =>
      cases forgets with
      | false =>
        obtain ⟨fault, hfault, hl⟩ := (@Plan.recovers_change depth e .reset).1 h
        exact ⟨fault, hargs, hfault, hl⟩
      | true =>
        obtain ⟨fault, hfault, hl⟩ :=
          (@Plan.recovers_change depth { e with history := [] } .reset).1 h
        exact ⟨fault, hargs, hfault, hl⟩

/-! ### Every call -/

/-- An error comes back from a plain command only if it left the engine as it was. -/
theorem Builtin.Plain.unchanged {b : Builtin} (hb : b.Plain fun _ => True) {e : Engine}
    (he : e.Sane) {c : Call} (hget : Table.builtin.get? c.name = some b.command) {depth : Nat}
    {surface : Bool} {fault : Error}
    (h : (dispatch Table.builtin depth surface c e).1 = .error fault) :
    (dispatch Table.builtin depth surface c e).2 = e := by
  cases depth with
  | zero => rfl
  | succ depth =>
    rw [dispatch_builtin hget] at h ⊢
    cases hv : c.args.validate b.definition.parameters with
    | error fault => rfl
    | ok args =>
      simp only [hv] at h ⊢
      cases hs : (b.settle depth args e).1 with
      | ok v =>
        rw [hs] at h
        cases h
      | error fault' =>
        rcases hb.settle_error he hs with ⟨hl, hsame⟩ | ⟨hl, w, hw, hspared⟩
        · rw [conclude_fault _ _ _ hl, hsame]
        · -- a name that is taken or not found does not come back as an error
          obtain ⟨lookup, -, -, hl⟩ := Error.lookup?_eq_some hl
          simp [hs, conclude_lookup _ _ _ hl] at h

/-- A plain command that recovers. -/
theorem Builtin.Plain.spares {b : Builtin} (hb : b.Plain fun _ => True) {e : Engine}
    (he : e.Sane) {c : Call} (hget : Table.builtin.get? c.name = some b.command) {depth : Nat}
    {surface : Bool} (h : recovers Table.builtin (depth + 1) c e) :
    ∃ fault : Scene.Error, fault.isLookup ∧
      (dispatch Table.builtin (depth + 1) surface c e).1 = .ok (.string fault.message) ∧
      e.Spares surface [] ⟨b.definition, c.args.present⟩ (.string fault.message)
        (dispatch Table.builtin (depth + 1) surface c e).2 := by
  obtain ⟨args, fault, hv, hs, hl⟩ := hb.error_of_recovers he hget h
  obtain rfl := validate_ok hv
  rw [dispatch_builtin hget]
  simp only [hv]
  rcases hb.settle_error he hs with ⟨hnone, -⟩ | ⟨-, w, hw, hspared⟩
  · simp [hnone] at hl
  · rw [hs, hw]
    exact conclude_spares hspared hl

/-- A call that spared the scene was recorded, and the call that it belongs to is recorded now. -/
theorem Engine.Spares.record {e e' : Engine} {own : Entry} {result : Value}
    (h : e.Spares false [] own result e') (d : Definition) (surface : Bool) (args : Args) :
    e.Spares surface [own] ⟨d, args⟩ result (e'.record d surface args result) where
  workspace := by
    rw [record_workspace]
    exact h.workspace
  history := by
    rw [record_history, h.history]
    simp
  log := by
    rw [record_log, h.log]
    rfl
  console := by
    rw [record_console, h.console]
    simp [Entry.shown]

/-- An error comes back from a composite only if it left the engine as it was: it comes from the
command that it runs, or that one was not run. -/
theorem Builtin.composite_unchanged {b : Builtin} (hb : b ∈ composites) {e : Engine}
    (he : e.Sane) {c : Call} (hget : Table.builtin.get? c.name = some b.command) {depth : Nat}
    {surface : Bool} {fault : Error}
    (h : (dispatch Table.builtin (depth + 1) surface c e).1 = .error fault) :
    (dispatch Table.builtin (depth + 1) surface c e).2 = e := by
  have hview : e.builtinView.Alike (fun _ => True) e.builtinView := ⟨he, rfl⟩
  rw [dispatch_builtin hget] at h ⊢
  cases hv : c.args.validate b.definition.parameters with
  | error fault => rfl
  | ok args =>
    rcases composite_plan hb hview args with ⟨cause, hp⟩ | ⟨t, ht, targs, hp⟩
    · simp only [hv, settle, hp] at h ⊢
      cases hl : cause.lookup? with
      | none => rw [conclude_fault _ _ _ hl]
      | some lookup => simp [conclude_lookup _ _ _ hl] at h
    · simp only [hv, settle, hp, Plan.perform_delegate] at h ⊢
      cases hinner : (dispatch Table.builtin depth false ⟨t.definition.name, targs⟩ e).1 with
      | ok v =>
        rw [hinner] at h
        cases h
      | error cause =>
        rw [conclude_fault _ _ _ (dispatch_error hinner)]
        have htarget := Table.builtin_get?_target t ht
        exact (targets_plain (fun _ _ => trivial) t ht).unchanged he htarget hinner

/-- A composite that recovers does so itself, or the command that it runs does. -/
theorem Builtin.composite_spares {b : Builtin} (hb : b ∈ composites) {e : Engine} (he : e.Sane)
    {c : Call} (hget : Table.builtin.get? c.name = some b.command) {depth : Nat} {surface : Bool}
    (h : recovers Table.builtin (depth + 1) c e) :
    ∃ (inner : List Entry) (fault : Scene.Error), inner.length ≤ 1 ∧ fault.isLookup ∧
      (dispatch Table.builtin (depth + 1) surface c e).1 = .ok (.string fault.message) ∧
      e.Spares surface inner ⟨b.definition, c.args.present⟩ (.string fault.message)
        (dispatch Table.builtin (depth + 1) surface c e).2 := by
  have hview : e.builtinView.Alike (fun _ => True) e.builtinView := ⟨he, rfl⟩
  obtain ⟨args, hv, h⟩ := (recovers_builtin hget depth e).1 h
  obtain rfl := validate_ok hv
  rw [dispatch_builtin hget]
  rcases composite_plan hb hview c.args.present with ⟨cause, hp⟩ | ⟨t, ht, targs, hp⟩
  · rw [hp] at h
    simp only [hv, settle, hp]
    obtain ⟨fault, hlookup, hresult, hspares⟩ :=
      @conclude_spares b.definition surface c.args.present e _ (.refl e.workspace) cause h
    exact ⟨[], fault, Nat.zero_le _, hlookup, hresult, hspares⟩
  · rw [hp] at h
    have hinner := Plan.recovers_delegate.1 h
    cases depth with
    | zero => exact absurd hinner id
    | succ depth =>
      have htarget := Table.builtin_get?_target t ht
      obtain ⟨fault, hlookup, hresult, hspares⟩ :=
        (targets_plain (fun _ _ => trivial) t ht).spares he htarget hinner
      simp only [hv, settle, hp, Plan.perform_delegate]
      rw [hresult]
      exact ⟨[⟨t.definition, targs.present⟩], fault, Nat.le_refl 1, hlookup, rfl,
        hspares.record b.definition surface _⟩

/-- An error comes back only from a call that left the engine as it was. -/
theorem dispatch_unchanged {e : Engine} (he : e.Sane) {c : Call}
    (hc : c.name ≠ "runJsonCommandList") {depth : Nat} {surface : Bool} {fault : Error}
    (h : (dispatch Table.builtin depth surface c e).1 = .error fault) :
    (dispatch Table.builtin depth surface c e).2 = e := by
  cases depth with
  | zero => rfl
  | succ depth =>
    cases hget : Table.builtin.get? c.name with
    | none => rw [dispatch_unknown hget]
    | some command =>
      obtain ⟨b, hb, rfl, hname⟩ := Table.builtin_get? hget
      rcases Builtin.plain_or_composite (fun _ _ => trivial) hb with hplain | hcomposite | rfl
      · exact hplain.unchanged he hget h
      · exact Builtin.composite_unchanged hcomposite he hget h
      · exact absurd hname.symm hc

/-- **Calls that fail leave everything as it was.** An error comes back from a call only if the
whole engine is as before. If a name is taken or not found, in the command or in the one that it
runs, then the words for that are the result; the registries, the stage, the menu flag, the camera
and the settings are as before; the history and the log have grown by the entry of the call, behind
that of the command that it ran, and the console by what is shown of a call from a menu. -/
theorem dispatch_failure {e : Engine} (he : e.Reachable) {c : Call}
    (hc : c.name ≠ "runJsonCommandList") (depth : Nat) (surface : Bool) :
    (∀ fault, (dispatch Table.builtin depth surface c e).1 = .error fault →
      (dispatch Table.builtin depth surface c e).2 = e) ∧
    (recovers Table.builtin depth c e →
      ∃ (command : VectorScene.Command) (inner : List Entry) (fault : Scene.Error),
        Table.builtin.get? c.name = some command ∧ inner.length ≤ 1 ∧ fault.isLookup ∧
          (dispatch Table.builtin depth surface c e).1 = .ok (.string fault.message) ∧
          e.Spares surface inner ⟨command.definition, c.args.present⟩ (.string fault.message)
            (dispatch Table.builtin depth surface c e).2) := by
  have hsane := he.sane
  refine ⟨fun _ => dispatch_unchanged hsane hc, fun h => ?_⟩
  cases depth with
  | zero => exact absurd h id
  | succ depth =>
    cases hget : Table.builtin.get? c.name with
    | none =>
      rw [recovers] at h
      simp [hget] at h
    | some command =>
      obtain ⟨b, hb, rfl, hname⟩ := Table.builtin_get? hget
      rcases Builtin.plain_or_composite (fun _ _ => trivial) hb with hplain | hcomposite | rfl
      · obtain ⟨fault, hlookup, hresult, hspares⟩ := hplain.spares hsane hget h
        exact ⟨_, [], fault, rfl, Nat.zero_le _, hlookup, hresult, hspares⟩
      · obtain ⟨inner, fault, hlength, hlookup, hresult, hspares⟩ :=
          Builtin.composite_spares hcomposite hsane hget h
        exact ⟨_, inner, fault, rfl, hlength, hlookup, hresult, hspares⟩
      · exact absurd hname.symm hc

/-- In the empty scene there is no vector to rename: the call and the one that it runs are recorded,
and the scene is as before. -/
theorem dispatch_failure_renameVector :
    let e : Engine := { draws := ⟨fun _ => 0, 0⟩, log := { files := {} } }
    let c : Call := ⟨"renameVector", .ofList
      [("oldVectorName", .string "a"), ("newVectorName", .string "b")]⟩
    ∃ (command : VectorScene.Command) (inner : List Entry) (fault : Scene.Error),
      Table.builtin.get? c.name = some command ∧ inner.length ≤ 1 ∧ fault.isLookup ∧
        (dispatch Table.builtin 2 true c e).1 = .ok (.string fault.message) ∧
        e.Spares true inner ⟨command.definition, c.args.present⟩ (.string fault.message)
          (dispatch Table.builtin 2 true c e).2 := by
  intro e c
  have hrecovers : recovers Table.builtin 2 c e := Or.inl rfl
  exact (dispatch_failure (.start ⟨fun _ => 0, 0⟩ {}) (by decide) 2 true).2 hrecovers

end VectorScene.Command
