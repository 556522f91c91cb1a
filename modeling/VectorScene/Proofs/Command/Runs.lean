import VectorScene.Proofs.Command.Termination

/-!
# From changes to runs

Calls change the scene only by the changes that plans settle on. So whatever relates the scene
before each of these to the one behind it, and can be chained, relates the scene before a call to
the one behind it: a command that runs another one, and a list that stops at a call that fails,
are chains of the changes made so far.

## Main definitions

* `Plan.changes`: the change that a plan makes itself
* `Engine.callAll`: calls from outside, one after another

## Main results

* `Engine.call_relates`: from changes to a call
* `Engine.runList_relates`, `Engine.callAll_relates`: from calls to lists and runs
-/

namespace VectorScene.Command

open Scene

/-! ### Plans that are carried out -/

namespace Plan

/-- The change that a plan makes itself, if it makes one. -/
def changes : Plan → List Change
  | change k => [k]
  | reset _ => [.reset]
  | _ => []

theorem enact_change (k : Change) (e : Engine) :
    ((change k).enact e).2.workspace = (k.run e.workspace).2 := rfl

theorem enact_reset (forgets : Bool) (e : Engine) :
    ((reset forgets).enact e).2.workspace = (Change.reset.run e.workspace).2 := by
  cases forgets <;> rfl

theorem enact_delegate (k : Call) (e : Engine) :
    (delegate k).enact e = e.call Table.builtin false k := rfl

theorem collect_engine {surface : Bool} {calls : List Call} {next : List Value → Handler}
    (hnext : ∀ vs, ∃ result, next vs = .done result) (e : Engine) :
    ((Handler.collect surface calls next).run
        (fun surface k e => e.call Table.builtin surface k) Table.builtin.definitions e).2 =
      (e.runList Table.builtin surface calls).2 := by
  induction calls generalizing next e with
  | nil =>
    obtain ⟨result, hdone⟩ := hnext []
    rw [Handler.collect, hdone]
    rfl
  | cons k rest ih =>
    simp only [Handler.collect, Handler.run, Engine.runList_cons]
    cases (e.call Table.builtin surface k).1 with
    | error fault => rfl
    | ok v => exact ih (fun vs => hnext (v :: vs)) _

/-- A command list does to the engine what its calls do, up to the first that fails. -/
theorem enact_replay (calls : List Call) (e : Engine) :
    ((replay calls).enact e).2 = (e.runList Table.builtin true calls).2 :=
  collect_engine (fun _ => ⟨_, rfl⟩) e

end Plan

theorem Call.Settles.workspace {c : Call} {e : Engine} {b : Builtin} {plan : Plan}
    (h : c.Settles e b plan) (surface : Bool) :
    (e.call Table.builtin surface c).2.workspace = (plan.enact e).2.workspace := by
  rw [(h.outer surface).1, conclude_workspace]

namespace Engine

/-- Calls from outside, one after another, whatever comes of each. -/
def callAll (calls : List (Bool × Call)) (e : Engine) : Engine :=
  calls.foldl (fun e c => (e.call Table.builtin c.1 c.2).2) e

theorem callAll_append (calls calls' : List (Bool × Call)) (e : Engine) :
    e.callAll (calls ++ calls') = (e.callAll calls).callAll calls' := List.foldl_append

/-- Behind calls that came through, a list goes on. -/
theorem runList_append_of_ok {table : Table} {surface : Bool} {calls : List Call} {e e' : Engine}
    {vs : List Value} (h : e.runList table surface calls = (.ok vs, e')) (rest : List Call) :
    (e.runList table surface (calls ++ rest)).2 = (e'.runList table surface rest).2 := by
  induction calls generalizing e vs with
  | nil =>
    cases h
    rfl
  | cons c calls ih =>
    rw [runList_cons] at h
    rw [List.cons_append, runList_cons]
    cases hcall : (e.call table surface c).1 with
    | error fault =>
      rw [hcall] at h
      cases h
    | ok v =>
      simp only [hcall, Prod.mk.injEq] at h
      cases hrest : ((e.call table surface c).2.runList table surface calls).1 with
      | error fault =>
        rw [hrest] at h
        cases h.1
      | ok vs' => exact ih (Prod.ext hrest h.2)

/-! ### What changes do, calls do -/

section Relates

variable {R : Workspace → Workspace → Prop} (hrefl : ∀ w, R w w)
  (htrans : ∀ {w w' w''}, R w w' → R w' w'' → R w w'')

include hrefl htrans

/-- A list relates what its calls relate. -/
theorem runList_relates {surface : Bool} {calls : List Call}
    (hcalls : ∀ k ∈ calls, ∀ e : Engine,
      R e.workspace (e.call Table.builtin surface k).2.workspace) (e : Engine) :
    R e.workspace (e.runList Table.builtin surface calls).2.workspace := by
  induction calls generalizing e with
  | nil => exact hrefl _
  | cons k rest ih =>
    obtain ⟨hk, hrest⟩ := List.forall_mem_cons.1 hcalls
    rw [runList_cons]
    cases (e.call Table.builtin surface k).1 with
    | error fault => exact hk e
    | ok v => exact htrans (hk e) (ih hrest _)

/-- So does a run. -/
theorem callAll_relates
    (hcalls : ∀ surface k (e : Engine), R e.workspace (e.call Table.builtin surface k).2.workspace)
    (calls : List (Bool × Call)) (e : Engine) : R e.workspace (e.callAll calls).workspace := by
  induction calls generalizing e with
  | nil => exact hrefl _
  | cons c rest ih => exact htrans (hcalls c.1 c.2 e) (ih _)

/-- **A call** relates what the changes of plans relate. -/
theorem call_relates
    (hchange : ∀ {c : Call} {e : Engine} {b : Builtin} {plan : Plan}, c.Settles e b plan →
      ∀ k ∈ plan.changes, R e.workspace (k.run e.workspace).2)
    (surface : Bool) (c : Call) (e : Engine) :
    R e.workspace (e.call Table.builtin surface c).2.workspace := by
  -- by what the call may start
  induction c using Call.wellFounded_starts.induction generalizing surface e with
  | _ c ih =>
  rcases c.settles_or_idle e with ⟨b, plan, hsettles⟩ | ⟨-, hidle⟩
  · rw [hsettles.workspace]
    cases plan with
    | answer result => exact hrefl _
    | change k =>
      rw [Plan.enact_change]
      exact hchange hsettles k List.mem_cons_self
    | forget result => exact hrefl _
    | reset forgets =>
      rw [Plan.enact_reset]
      exact hchange hsettles .reset List.mem_cons_self
    | delegate k => exact ih k (hsettles.starts List.mem_cons_self) false e
    | replay calls =>
      rw [Plan.enact_replay]
      exact runList_relates hrefl htrans (fun k hk => ih k (hsettles.starts hk) true) e
  · rw [hidle]
    exact hrefl _

end Relates

end Engine

end VectorScene.Command
