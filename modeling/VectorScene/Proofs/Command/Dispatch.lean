import VectorScene.Command.Engine
import VectorScene.Proofs.Command.Plans
import VectorScene.Proofs.Scene.Handles

/-!
# Calls of built-in commands

What a call of a built-in command does, step by step: the arguments are checked, the command settles
on a plan, and the plan is carried out. From every engine that can be reached the registries of the
scene are those of rosters.

## Main definitions

* `Plan.perform`: a plan that is carried out
* `Builtin.settle`: a command whose arguments have been checked
* `Engine.Reachable`: the engines that can be reached

## Main results

* `dispatch_builtin`, `Plan.perform_change` and the same for other plans: the equations of a call
* `Engine.Reachable.sane`: the scene of an engine that can be reached
-/

namespace VectorScene.Command

open Scene

/-! ### Equations -/

/-- A plan that is carried out, with calls nested to the given depth. -/
def Plan.perform (depth : Nat) (plan : Plan) (e : Engine) : Except Error Value × Engine :=
  plan.handler.run (dispatch Table.builtin depth) Table.builtin.definitions e

/-- What a built-in command reads. -/
def Engine.builtinView (e : Engine) : View := e.view Table.builtin.definitions

namespace Plan

variable (depth : Nat) (e : Engine)

@[simp] theorem perform_answer (result : Value) :
    (answer result).perform depth e = (.ok result, e) := rfl

@[simp] theorem perform_change (c : Change) :
    (change c).perform depth e =
      ((c.run e.workspace).1.mapError .scene, e.withWorkspace (c.run e.workspace).2) := rfl

@[simp] theorem perform_forget (result : Value) :
    (forget result).perform depth e = (.ok result, { e with history := [] }) := rfl

@[simp] theorem perform_reset (forgets : Bool) :
    (reset forgets).perform depth e =
      (change .reset).perform depth (if forgets then { e with history := [] } else e) := by
  cases forgets <;> rfl

@[simp] theorem perform_delegate (c : Call) :
    (delegate c).perform depth e = dispatch Table.builtin depth false c e := rfl

end Plan

/-- A built-in command whose arguments have been checked. -/
def Builtin.settle (b : Builtin) (depth : Nat) (args : Args) (e : Engine) :
    Except Error Value × Engine :=
  match b.plan e.builtinView args with
  | .ok plan => plan.perform depth e
  | .error fault => (.error fault, e)

theorem Builtin.run_command (b : Builtin) (depth : Nat) (args : Args) (e : Engine) :
    (b.command.handler args).run (dispatch Table.builtin depth) Table.builtin.definitions e =
      b.settle depth args e := by
  unfold Builtin.settle Builtin.command
  simp only [Handler.run, Engine.builtinView]
  cases b.plan (e.view Table.builtin.definitions) args <;> rfl

/-- **A call** of a built-in command. -/
theorem dispatch_builtin {b : Builtin} {c : Call}
    (hb : Table.builtin.get? c.name = some b.command) (depth : Nat) (surface : Bool) (e : Engine) :
    dispatch Table.builtin (depth + 1) surface c e =
      match c.args.validate b.definition.parameters with
      | .error fault => (.error fault, e)
      | .ok args => conclude b.definition surface args (b.settle depth args e).1
          (b.settle depth args e).2 := by
  rw [dispatch]
  simp only [hb, Builtin.run_command]
  rfl

theorem dispatch_unknown {c : Call} (hc : Table.builtin.get? c.name = none) (depth : Nat)
    (surface : Bool) (e : Engine) :
    dispatch Table.builtin (depth + 1) surface c e = (.ok (unknownCommand c.name), e) := by
  rw [dispatch]
  simp only [hc]

theorem conclude_lookup (d : Definition) (surface : Bool) (args : Args) {fault : Error}
    {lookup : Scene.Error} (h : fault.lookup? = some lookup) (e : Engine) :
    conclude d surface args (.error fault) e =
      (.ok (.string lookup.message),
        (e.report (.warning s!"{d.name}: {lookup.message}")).record d surface args
          (.string lookup.message)) := by
  unfold conclude
  simp only [h]

theorem conclude_fault (d : Definition) (surface : Bool) (args : Args) {fault : Error}
    (h : fault.lookup? = none) (e : Engine) :
    conclude d surface args (.error fault) e = (.error fault, e) := by
  unfold conclude
  simp only [h]

/-! ### Engines that can be reached -/

/-- The rosters of a scene exist, and the arrows of its matrices are in place. -/
def Engine.Sane (e : Engine) : Prop := e.scene.Alike (fun _ => True) e.scene

/-- Handlers that change the scene by the changes of the built-in commands. -/
inductive Handler.Ordinary : Handler → Prop where
  | done (result : Except Error Value) : Ordinary (.done result)
  | look {next : View → Handler} : (∀ view, Ordinary (next view)) → Ordinary (.look next)
  | change (c : Change) {next : Except Scene.Error Value → Handler} :
    (∀ result, Ordinary (next result)) → Ordinary (.change c.run next)
  | clearHistory {next : Handler} : Ordinary next → Ordinary (.clearHistory next)
  | print (text : String) {next : Handler} : Ordinary next → Ordinary (.print text next)
  | call (surface : Bool) (c : Call) {next : Except Error Value → Handler} :
    (∀ result, Ordinary (next result)) → Ordinary (.call surface c next)

theorem Handler.ordinary_collect (surface : Bool) (calls : List Call)
    {next : List Value → Handler} (hnext : ∀ vs, (next vs).Ordinary) :
    (Handler.collect surface calls next).Ordinary := by
  induction calls generalizing next with
  | nil => exact hnext []
  | cons c rest ih =>
    refine .call surface c fun result => ?_
    cases result with
    | ok v => exact ih fun vs => hnext (v :: vs)
    | error fault => exact .done _

theorem Plan.ordinary (plan : Plan) : plan.handler.Ordinary := by
  have hchange : ∀ c, (Plan.changeHandler c).Ordinary := fun c => .change c fun _ => .done _
  cases plan with
  | answer result => exact .done _
  | change c => exact hchange c
  | forget result => exact .clearHistory (.done _)
  | reset forgets =>
    cases forgets with
    | false => exact hchange .reset
    | true => exact .clearHistory (hchange .reset)
  | delegate c => exact .call false c fun _ => .done _
  | replay calls => exact Handler.ordinary_collect true calls fun _ => .done _

theorem Builtin.ordinary (b : Builtin) (args : Args) : (b.command.handler args).Ordinary := by
  refine .look fun view => ?_
  cases b.plan view args with
  | ok plan => exact plan.ordinary
  | error fault => exact .done _

/-- Every color will do. -/
theorem Change.colored_true (c : Change) : c.Colored fun _ => True := by
  cases c <;> simp [Change.Colored, Sketch.Colored]

/-- A change keeps the rosters of the scene. -/
theorem Change.sane {w : Workspace} (hw : w.scene.Alike (fun _ => True) w.scene) (c : Change) :
    (c.run w).2.scene.Alike (fun _ => True) (c.run w).2.scene := by
  have hw : w.Alike (fun _ => True) w := ⟨hw, rfl⟩
  exact (Change.run_alike hw (fun _ _ => trivial) (fun _ => trivial) c.colored_true).2.scene

/-- What changes keep, an ordinary handler keeps if calls do. -/
theorem Handler.Ordinary.run {h : Handler} (hh : h.Ordinary) {P : Workspace → Prop}
    (hP : ∀ (c : Change) w, P w → P (c.run w).2)
    {runCall : Bool → Call → Engine → Except Error Value × Engine}
    (hcall : ∀ surface c e, P e.workspace → P (runCall surface c e).2.workspace)
    (definitions : List Definition) {e : Engine} (he : P e.workspace) :
    P (h.run runCall definitions e).2.workspace := by
  induction hh generalizing e with
  | done result => exact he
  | look _ ih => exact ih _ he
  | change c _ ih => exact ih _ (hP c _ he)
  | clearHistory _ ih => exact ih he
  | print text _ ih => exact ih he
  | call surface c _ ih => exact ih _ (hcall surface c e he)

theorem Engine.record_workspace (e : Engine) (d : Definition) (surface : Bool) (args : Args)
    (result : Value) : (e.record d surface args result).workspace = e.workspace := by
  unfold Engine.record
  simp only
  split <;> rfl

theorem conclude_workspace (d : Definition) (surface : Bool) (args : Args)
    (result : Except Error Value) (e : Engine) :
    (conclude d surface args result e).2.workspace = e.workspace := by
  cases result with
  | ok v => exact e.record_workspace d surface args v
  | error fault =>
    cases hl : fault.lookup? with
    | none => rw [conclude_fault d surface args hl]
    | some lookup =>
      rw [conclude_lookup d surface args hl]
      exact Engine.record_workspace _ d surface args _

/-- **What changes keep**, calls keep. -/
theorem dispatch_keeps {P : Workspace → Prop} (hP : ∀ (c : Change) w, P w → P (c.run w).2)
    (depth : Nat) (surface : Bool) (c : Call) {e : Engine} (he : P e.workspace) :
    P (dispatch Table.builtin depth surface c e).2.workspace := by
  -- induction on the depth, for the calls that a handler makes
  induction depth generalizing surface c e with
  | zero => exact he
  | succ depth ih =>
    cases hget : Table.builtin.get? c.name with
    | none =>
      rw [dispatch_unknown hget]
      exact he
    | some command =>
      obtain ⟨b, -, rfl, -⟩ := Table.builtin_get? hget
      rw [dispatch_builtin hget]
      cases c.args.validate b.definition.parameters with
      | error fault => exact he
      | ok args =>
        have hrun := (b.ordinary args).run hP (fun surface c e he => ih surface c he)
          Table.builtin.definitions he
        rw [b.run_command] at hrun
        rw [conclude_workspace]
        exact hrun

/-- A call keeps the rosters of the scene. -/
theorem Engine.Sane.dispatch (depth : Nat) (surface : Bool) (c : Call) {e : Engine} (he : e.Sane) :
    (dispatch Table.builtin depth surface c e).2.Sane :=
  dispatch_keeps (P := fun w => w.scene.Alike (fun _ => True) w.scene)
    (fun c _ hw => Change.sane hw c) depth surface c he

namespace Engine

/-- The engines that can be reached from a new one: by calls, by requests to the scene, and by
whatever changes neither the registries nor the stage, such as clearing the history, opening a log
file, or moving the camera. -/
inductive Reachable : Engine → Prop where
  | start (draws : Draws) (files : Files) : Reachable { draws, log := { files } }
  | call {e : Engine} (surface : Bool) (c : Call) :
    Reachable e → Reachable (e.call Table.builtin surface c).2
  | scene {e : Engine} (event : Scene.Event) :
    Reachable e → Reachable { e with scene := e.scene.after event }
  | aside {e e' : Engine} : e'.scene.vectors = e.scene.vectors →
    e'.scene.matrices = e.scene.matrices → e'.scene.stage = e.scene.stage →
    Reachable e → Reachable e'

theorem Sane.event {e : Engine} (he : e.Sane) (event : Scene.Event) :
    ({ e with scene := e.scene.after event } : Engine).Sane := by
  have hall : ∀ request : Request Scene.Vector, request.All fun _ => True := by
    intro request
    cases request <;> trivial
  have hvectors : ∀ request, (e.scene.askVectors request).Alike (fun _ => True)
      (e.scene.askVectors request) := fun request => State.Alike.askVectors he request (hall _)
  have hmatrices : ∀ request, (e.scene.askMatrices request).Alike (fun _ => True)
      (e.scene.askMatrices request) := fun request => State.Alike.askMatrices he request
  show (e.scene.after event).Alike (fun _ => True) (e.scene.after event)
  rw [State.after_eq]
  cases event with
  | createVector v _ => exact hvectors _
  | replaceVector key v _ => exact hvectors _
  | destroyVector key => exact hvectors _
  | showVector key visible => exact hvectors _
  | createMatrix m _ => exact hmatrices _
  | replaceMatrix key m _ => exact hmatrices _
  | destroyMatrix key => exact hmatrices _
  | showMatrix key visible => exact hmatrices _
  | clear =>
    have hclear : e.scene.clear.Alike (fun _ => True) e.scene.clear := State.Alike.clear he
    exact hclear
  | outside h => exact { he with }

/-- **The scene of an engine that can be reached** holds the entities of rosters. -/
theorem Reachable.sane {e : Engine} (he : e.Reachable) : e.Sane := by
  induction he with
  | start draws files => exact State.Alike.empty _
  | call surface c _ ih => exact ih.dispatch _ surface c
  | scene event _ ih => exact ih.event event
  | aside hvectors hmatrices _ _ ih =>
    refine ⟨?_, ?_, rfl, rfl, rfl, rfl⟩
    · rw [hvectors]
      exact ih.vectors
    · rw [hmatrices]
      exact ih.matrices

end Engine

end VectorScene.Command
