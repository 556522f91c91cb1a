import VectorScene.Proofs.Command.Agreement
import VectorScene.Proofs.Command.Composites
import VectorScene.Proofs.Scene.Colors

/-!
# The history as a script

The calls in the history, run one after another in a new engine that sees the same random numbers,
end in the same scene. Calls that were not recorded had done nothing, and a call that was recorded
behind the one that it ran does nothing more when both are run.

## Main definitions

* `Engine.Replays`: what was recorded on the way from one engine to another leads the same way from
  every engine with a like scene
* `Engine.executeAll`: calls that were typed one after another

## Main results

* `dispatch_replays`: one call
* `executeAll_replays`: any number of calls
* `history_replays`: the whole history, in a new engine
-/

namespace VectorScene.Command

open Scene

variable {C : Color → Prop}

/-! ### Recorded calls -/

/-- **A recorded call** does what the call did. -/
theorem dispatch_present (table : Table) (depth : Nat) (surface : Bool) (c : Call) (e : Engine) :
    dispatch table depth surface ⟨c.name, c.args.present⟩ e = dispatch table depth surface c e := by
  cases depth with
  | zero => rfl
  | succ depth => simp only [dispatch, Args.validate_present]

theorem Engine.runList_append {table : Table} {surface : Bool} {calls calls' : List Call}
    {e e' e'' : Engine} {results results' : List Value}
    (h : e.runList table surface calls = (.ok results, e'))
    (h' : e'.runList table surface calls' = (.ok results', e'')) :
    e.runList table surface (calls ++ calls') = (.ok (results ++ results'), e'') := by
  -- each call of the first list comes through, since the whole list does
  induction calls generalizing e results with
  | nil =>
    cases h
    exact h'
  | cons c rest ih =>
    simp only [List.cons_append, Engine.runList] at h ⊢
    cases hcall : e.call table surface c with
    | mk x middle =>
      cases x with
      | error fault => simp [hcall] at h
      | ok v =>
        simp only [hcall] at h ⊢
        cases hrest : middle.runList table surface rest with
        | mk y last =>
          cases y with
          | error fault => simp [hrest] at h
          | ok vs =>
            simp only [hrest, Prod.mk.injEq, Except.ok.injEq] at h
            obtain ⟨rfl, rfl⟩ := h
            rw [ih hrest]
            rfl

namespace Engine

/-- What was recorded on the way from one engine to another, run from an engine with a like scene,
comes through and ends with a like scene. -/
def Replays (C : Color → Prop) (e e' : Engine) : Prop :=
  ∃ calls, e'.history = e.history ++ calls ∧
    ∀ (r : Engine) (surface : Bool), e.workspace.Alike C r.workspace →
      ∃ results r', r.runList Table.builtin surface calls = (.ok results, r') ∧
        e'.workspace.Alike C r'.workspace

theorem Replays.refl (C : Color → Prop) (e : Engine) : e.Replays C e :=
  ⟨[], (List.append_nil _).symm, fun r _ h => ⟨[], r, rfl, h⟩⟩

theorem Replays.trans {e e' e'' : Engine} (h : e.Replays C e') (h' : e'.Replays C e'') :
    e.Replays C e'' := by
  obtain ⟨calls, hcalls, hrun⟩ := h
  obtain ⟨calls', hcalls', hrun'⟩ := h'
  refine ⟨calls ++ calls', by rw [hcalls', hcalls, List.append_assoc], ?_⟩
  intro r surface halike
  -- the second part is run where the first one ends, in a scene like the one in the middle
  obtain ⟨results, r', hr, halike'⟩ := hrun r surface halike
  obtain ⟨results', r'', hr', halike''⟩ := hrun' r' surface halike'
  exact ⟨_, r'', Engine.runList_append hr hr', halike''⟩

/-- One recorded call that can be run in every like scene. -/
theorem Replays.single {e e' : Engine} {c : Call}
    (hhistory : e'.history = e.history ++ [⟨c.name, c.args.present⟩])
    (hrun : ∀ (r : Engine) (depth : Nat) (surface : Bool), e.workspace.Alike C r.workspace →
      ∃ v r', dispatch Table.builtin (depth + 2) surface c r = (.ok v, r') ∧
        e'.workspace.Alike C r'.workspace) : e.Replays C e' := by
  refine ⟨[⟨c.name, c.args.present⟩], hhistory, ?_⟩
  intro r surface halike
  obtain ⟨v, r', hr, halike'⟩ := hrun r (c.args.present.longest + 998) surface halike
  have hcall : r.call Table.builtin surface ⟨c.name, c.args.present⟩ = (.ok v, r') := by
    rw [← hr, ← dispatch_present]
    rfl
  exact ⟨[v], r', by simp only [runList, hcall], halike'⟩

end Engine

/-! ### One call -/

section Step

variable {e : Engine}

/-- What every call leaves to the next one. -/
theorem dispatch_sound (hlimit : ∀ c ≤ Color.limit, C c) {c : Call}
    (hc : c.name ≠ "runJsonCommandList") (he : e.workspace.Alike C e.workspace)
    (hdraws : Drawable C e.draws) {depth : Nat} {surface : Bool} {x : Except Error Value}
    {e' : Engine} (h : dispatch Table.builtin (depth + 2) surface c e = (x, e')) :
    e'.workspace.Alike C e'.workspace ∧ Drawable C e'.draws := by
  have halike := (dispatch_alike hlimit hc he hdraws depth depth surface surface).workspace
  have hdrawn := dispatch_keeps (P := fun w => Drawable C w.draws)
    (fun c w hw => hw.later (c.run_later w)) (depth + 2) surface c hdraws
  rw [h] at halike hdrawn
  exact ⟨halike, hdrawn⟩

/-- A call of which nothing but itself was recorded. -/
theorem replays_alone (hlimit : ∀ c ≤ Color.limit, C c) {c : Call}
    (hc : c.name ≠ "runJsonCommandList") (hdraws : Drawable C e.draws) {depth : Nat}
    {surface : Bool} {v : Value} {e' : Engine}
    (hrun : dispatch Table.builtin (depth + 2) surface c e = (.ok v, e'))
    (hhistory : e'.history = e.history ++ [⟨c.name, c.args.present⟩]) : e.Replays C e' := by
  refine .single hhistory fun r depth' surface' halike => ?_
  obtain ⟨hresult, hworkspace⟩ :=
    dispatch_alike hlimit hc halike hdraws depth depth' surface surface'
  rw [hrun] at hresult hworkspace
  cases hr : dispatch Table.builtin (depth' + 2) surface' c r with
  | mk x r' =>
    rw [hr] at hresult hworkspace
    cases hresult with
    | ok _ => exact ⟨_, r', rfl, hworkspace⟩

namespace Builtin

/-- A plain command records nothing itself, and clears nothing that it is not to. -/
theorem Plain.settle_history {b : Builtin} (hb : b.Plain C)
    (he : e.workspace.Alike C e.workspace) {args : Args}
    (hforgets : ¬Call.Forgets ⟨b.definition.name, args⟩) (depth : Nat) :
    (b.settle depth args e).2.history = e.history := by
  have hplan := hb (Engine.builtinView_alike he) args
  unfold Builtin.settle
  generalize b.plan e.builtinView args = x at hplan ⊢
  cases hplan with
  | error fault => rfl
  | ok hlike =>
    cases hlike with
    | answer _ _ => rfl
    | change _ => rfl
    | forget _ h => exact absurd h hforgets
    | reset forgets h =>
      cases forgets with
      | false => rfl
      | true => exact absurd (h rfl) hforgets

theorem Plain.replays (hlimit : ∀ c ≤ Color.limit, C c) {b : Builtin} (hb : b.Plain C) {c : Call}
    (hget : Table.builtin.get? c.name = some b.command) (hname : b.definition.name = c.name)
    (hc : c.name ≠ "runJsonCommandList") (hforgets : ¬c.Forgets)
    (he : e.workspace.Alike C e.workspace) (hdraws : Drawable C e.draws) {depth : Nat}
    {surface : Bool} {v : Value} {e' : Engine}
    (hrun : dispatch Table.builtin (depth + 2) surface c e = (.ok v, e')) : e.Replays C e' := by
  obtain ⟨-, -, -, hhistory⟩ := dispatch_ok hget hrun
  have hkept : ¬Call.Forgets ⟨b.definition.name, c.args.present⟩ := by
    rw [hname]
    simpa [Call.Forgets] using hforgets
  rw [hb.settle_history he hkept, hname] at hhistory
  exact replays_alone hlimit hc hdraws hrun hhistory

theorem targets_names : ∀ t ∈ targets, t.definition.name ≠ "clearCommandHistory" ∧
    t.definition.name ≠ "resetScene" ∧ t.definition.name ≠ "runJsonCommandList" := by
  simp only [targets, List.forall_mem_cons]
  refine ⟨?_, ?_, ?_, by simp⟩ <;> decide

/-- What a composite runs is recorded like any plain command. -/
theorem target_replays (hlimit : ∀ c ≤ Color.limit, C c) {t : Builtin} (ht : t ∈ targets)
    (he : e.workspace.Alike C e.workspace) (hdraws : Drawable C e.draws) {targs : Args}
    {depth : Nat} {v : Value} {e' : Engine}
    (hrun : dispatch Table.builtin (depth + 2) false ⟨t.definition.name, targs⟩ e = (.ok v, e')) :
    e.Replays C e' := by
  obtain ⟨hclear, hreset, hlist⟩ := targets_names t ht
  have hforgets : ¬Call.Forgets ⟨t.definition.name, targs⟩ := by
    rintro (h | ⟨h, -⟩)
    · exact hclear h
    · exact hreset h
  exact (targets_plain hlimit t ht).replays hlimit (Table.builtin_get?_target t ht) rfl hlist
    hforgets he hdraws hrun

/-- Behind the command that it ran, a composite can be replayed. -/
theorem composite_replays_again (hC : ∀ c, C c ↔ c ≤ Color.limit) {b : Builtin}
    (hb : b ∈ composites) {c : Call} (hget : Table.builtin.get? c.name = some b.command)
    (hc : c.name ≠ "runJsonCommandList") (he : e.workspace.Alike C e.workspace)
    {middle e' : Engine} (hmiddle : middle.workspace.Alike C middle.workspace)
    (hdraws : Drawable C middle.draws) {args : Args}
    (hv : c.args.validate b.definition.parameters = .ok args) {k : Call}
    (hp : b.plan e.builtinView args = .ok (.delegate k)) {depth : Nat} {result : Value}
    (hinner : dispatch Table.builtin (depth + 1) false k e = (.ok result, middle))
    (hworkspace : e'.workspace = middle.workspace)
    (hhistory : e'.history = middle.history ++ [⟨c.name, c.args.present⟩]) :
    middle.Replays C e' := by
  have hlimit : ∀ c ≤ Color.limit, C c := fun c hc => (hC c).2 hc
  refine .single hhistory fun r depth' surface halike => ?_
  obtain ⟨hsettled, hsame⟩ := composite_again hC hb he hmiddle hp hinner depth'
  -- what the composite does there, and what it does in a like scene
  obtain ⟨hresult, hlike⟩ := dispatch_alike hlimit hc halike hdraws depth' depth' surface surface
  obtain ⟨v, hown⟩ := conclude_settled b.definition surface args
    (b.settle (depth' + 1) args middle).2 hsettled
  rw [dispatch_builtin hget, hv] at hresult hlike
  simp only [hown, conclude_workspace] at hresult hlike
  cases hr : dispatch Table.builtin (depth' + 2) surface c r with
  | mk x r' =>
    rw [hr] at hresult hlike
    cases hresult with
    | ok _ => exact ⟨_, r', rfl, hworkspace ▸ hsame.trans hlike⟩

/-- A composite is recorded behind the command that it ran. -/
theorem composite_replays (hC : ∀ c, C c ↔ c ≤ Color.limit) {b : Builtin} (hb : b ∈ composites)
    {c : Call} (hget : Table.builtin.get? c.name = some b.command)
    (hname : b.definition.name = c.name) (hc : c.name ≠ "runJsonCommandList")
    (he : e.workspace.Alike C e.workspace) (hdraws : Drawable C e.draws) {depth : Nat}
    {surface : Bool} {v : Value} {e' : Engine}
    (hrun : dispatch Table.builtin (depth + 3) surface c e = (.ok v, e')) : e.Replays C e' := by
  have hlimit : ∀ c ≤ Color.limit, C c := fun c hc => (hC c).2 hc
  obtain ⟨hv, hsettled, hworkspace, hhistory⟩ := dispatch_ok hget hrun
  rw [hname] at hhistory
  rcases composite_plan hb (Engine.builtinView_alike he) c.args.present with
    ⟨fault, hp⟩ | ⟨t, ht, targs, hp⟩
  · -- the command itself failed, and ran no other one
    have hkept : (b.settle (depth + 2) c.args.present e).2 = e := by
      rw [settle, hp]
    rw [hkept] at hhistory
    exact replays_alone hlimit hc hdraws hrun hhistory
  · obtain ⟨-, -, hlist⟩ := targets_names t ht
    have hsettle : b.settle (depth + 2) c.args.present e =
        dispatch Table.builtin (depth + 2) false ⟨t.definition.name, targs⟩ e := by
      rw [settle, hp]
      rfl
    rw [hsettle] at hsettled hworkspace hhistory
    cases hinner : dispatch Table.builtin (depth + 2) false ⟨t.definition.name, targs⟩ e with
    | mk x middle =>
      rw [hinner] at hsettled hworkspace hhistory
      cases x with
      | error fault =>
        -- what comes back from a call is never a name that is taken or not found
        have hnone := dispatch_error (congrArg Prod.fst hinner)
        have hsome := hsettled fault rfl
        simp [hnone] at hsome
      | ok result =>
        have hcall : Call.name ⟨t.definition.name, targs⟩ ≠ "runJsonCommandList" := hlist
        obtain ⟨hmiddle, hdrawn⟩ := dispatch_sound hlimit hcall he hdraws hinner
        have hfirst := target_replays hlimit ht he hdraws hinner
        exact hfirst.trans (composite_replays_again hC hb hget hc he hmiddle hdrawn hv hp hinner
          hworkspace hhistory)

end Builtin

/-- **One call** can be replayed from what was recorded of it. -/
theorem dispatch_replays (hC : ∀ c, C c ↔ c ≤ Color.limit) {c : Call}
    (hc : c.name ≠ "runJsonCommandList") (hforgets : ¬c.Forgets)
    (he : e.workspace.Alike C e.workspace) (hdraws : Drawable C e.draws) {depth : Nat}
    {surface : Bool} {x : Except Error Value} {e' : Engine}
    (hrun : dispatch Table.builtin (depth + 3) surface c e = (x, e')) : e.Replays C e' := by
  have hlimit : ∀ c ≤ Color.limit, C c := fun c hc => (hC c).2 hc
  cases x with
  | error fault =>
    -- a call that failed was not recorded, and left nothing behind
    have hsane : e.Sane := he.scene.mono fun _ _ => trivial
    have hsame := dispatch_unchanged hsane hc (congrArg Prod.fst hrun)
    rw [hrun] at hsame
    obtain rfl : e' = e := hsame
    exact .refl C e'
  | ok v =>
    cases hget : Table.builtin.get? c.name with
    | none =>
      rw [dispatch_unknown hget] at hrun
      cases hrun
      exact .refl C e
    | some command =>
      obtain ⟨b, hb, rfl, hname⟩ := Table.builtin_get? hget
      rcases Builtin.plain_or_composite hlimit hb with hplain | hcomposite | rfl
      · exact hplain.replays hlimit hget hname hc hforgets he hdraws hrun
      · exact Builtin.composite_replays hC hcomposite hget hname hc he hdraws hrun
      · exact absurd hname.symm hc

end Step

/-! ### The whole history -/

/-- The engine after calls that were typed one after another, whether or not they failed. -/
def Engine.executeAll (calls : List Call) (e : Engine) : Engine :=
  calls.foldl (fun e c => (e.execute Table.builtin c).2) e

theorem Engine.executeAll_cons (c : Call) (rest : List Call) (e : Engine) :
    e.executeAll (c :: rest) = (e.execute Table.builtin c).2.executeAll rest := rfl

/-- **Calls** can be replayed from what was recorded of them. -/
theorem executeAll_replays (hC : ∀ c, C c ↔ c ≤ Color.limit) {calls : List Call}
    (hcalls : ∀ c ∈ calls, c.name ≠ "runJsonCommandList" ∧ ¬c.Forgets) {e : Engine}
    (he : e.workspace.Alike C e.workspace) (hdraws : Drawable C e.draws) :
    e.Replays C (e.executeAll calls) := by
  -- like scenes and colors of 24 bits are the invariant, kept also by calls that fail
  induction calls generalizing e with
  | nil => exact .refl C e
  | cons c rest ih =>
    obtain ⟨⟨hlist, hforgets⟩, hrest⟩ := List.forall_mem_cons.1 hcalls
    cases hrun : e.execute Table.builtin c with
    | mk x e' =>
      have hstep : e.Replays C e' := dispatch_replays hC hlist hforgets he hdraws hrun
      obtain ⟨he', hdraws'⟩ := dispatch_sound (fun c hc => (hC c).2 hc) hlist he hdraws hrun
      rw [Engine.executeAll_cons, hrun]
      exact hstep.trans (ih hrest he' hdraws')

/-- An engine without a history, and with the given files. -/
def Engine.fresh (draws : Draws) (files : Files) : Engine := { draws, log := { files } }

/-- **The history is a script.** After any calls, the calls in the history run through in a new
engine that sees the same random numbers, each at least zero and below one, and end in the same
scene but for handles. Neither the command for command lists is among the calls nor one that clears
the history. -/
theorem history_replays {draws : Draws} (hdraws : draws.Lawful) (files files' : Files)
    (surface : Bool) {calls : List Call}
    (hcalls : ∀ c ∈ calls, c.name ≠ "runJsonCommandList" ∧ ¬c.Forgets) :
    ∃ results r,
      (Engine.fresh draws files').runList Table.builtin surface
        ((Engine.fresh draws files).executeAll calls).history = (.ok results, r) ∧
      ((Engine.fresh draws files).executeAll calls).scene.Mirrors r.scene := by
  have hfresh : (Engine.fresh draws files).workspace.Alike (fun c => c ≤ Color.limit)
      (Engine.fresh draws files').workspace := ⟨.empty _, rfl⟩
  have hdrawn : Drawable (fun c => c ≤ Color.limit) draws := fun n =>
    Color.ofUnit_le (hdraws n).1 (hdraws n).2
  obtain ⟨recorded, hhistory, hrun⟩ := executeAll_replays (fun _ => Iff.rfl) hcalls hfresh hdrawn
  obtain ⟨results, r, hr, halike⟩ := hrun (Engine.fresh draws files') surface hfresh
  have hsame : ((Engine.fresh draws files).executeAll calls).history = recorded := hhistory
  rw [hsame]
  exact ⟨results, r, hr, halike.scene.mirrors⟩

/-- A copy and a new name are recorded behind the commands that they ran; the call without arguments
is not recorded. -/
theorem history_replays_copies :
    let calls : List Call := [
      ⟨"createVector2", .ofList [("name", .string "a"), ("endPosition", .ofPoint .axisX)]⟩,
      ⟨"duplicateVector", .ofList [("name", .string "b"), ("vector", .string "$")]⟩,
      ⟨"createVector2", .empty⟩,
      ⟨"renameVector",
        .ofList [("oldVectorName", .string "$-1"), ("newVectorName", .string "c")]⟩]
    let e := Engine.fresh ⟨fun _ => 0.5, 0⟩ {}
    (e.executeAll calls).history.map (·.name) = ["createVector2", "createVector",
        "duplicateVector", "updateVector", "renameVector"] ∧
      ∃ results r, e.runList Table.builtin false (e.executeAll calls).history = (.ok results, r) ∧
        (e.executeAll calls).scene.Mirrors r.scene := by
  intro calls e
  refine ⟨by decide +kernel, ?_⟩
  have hhalf : (0 : Float) ≤ 0.5 ∧ (0.5 : Float) < 1 := by decide
  have hdraws : Draws.Lawful ⟨fun _ => 0.5, 0⟩ := fun _ => hhalf
  exact history_replays hdraws {} {} false (by simp [calls, Call.Forgets])

end VectorScene.Command
