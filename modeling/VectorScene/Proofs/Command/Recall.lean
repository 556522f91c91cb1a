import VectorScene.Proofs.Command.Kinds
import VectorScene.Proofs.Command.Arguments
import VectorScene.Proofs.Command.Edits
import VectorScene.Proofs.Command.Frames
import VectorScene.Proofs.Scene.Settings

/-!
# Settings over calls

A setting reads as the value that was last accepted for it since the settings were last reset, or as
its default, whatever calls were made in between: calls for other settings, calls that were refused,
and all other commands, those inside command lists and those of lists that stopped at a failure.

Which value a call leaves is told by the call alone, so the value that a setting reads as is told by
the calls that were made, in their order.

## Main definitions

* `Setting.accepts`: the values of the type of a setting
* `Settings.value`: what a setting reads as
* `Call.leaves?`: the value that a call leaves
* `Engine.made`: the calls that are made in a run, those inside other calls included

## Main results

* `Change.run_settings`: changes and settings
* `Engine.call_recalls`, `Engine.callAll_recalls`: a call and a run
* `settings_recalled`: settings by name, over members of objects, and over calls
-/

namespace VectorScene.Scene

open Command (Value)

/-- Whether a value has the type of a setting. -/
def Setting.accepts (x : Setting) : Value → Bool
  | .bool _ => x.isSwitch
  | .int i => !x.isSwitch && decide (0 ≤ i.toInt ∧ i.toInt < UInt32.size)
  | _ => false

theorem Setting.accepts_iff {x : Setting} {v : Value} : x.accepts v ↔ x.Takes v.toDocument := by
  cases v with
  | int i => simp [accepts, Value.toDocument, Takes]
  | float f =>
    rw [Value.toDocument]
    split <;> simp [accepts, Takes]
  | _ => simp [accepts, Value.toDocument, Takes]

/-- What a setting reads as. -/
def Settings.value (s : Settings) (x : Setting) : Value :=
  (Value.ofDocument? (s.get x)).getD .absent

/-- A value that was accepted is read again. -/
theorem Settings.value_eq {s : Settings} {x : Setting} {v : Value} (h : x.accepts v)
    (hget : s.get x = v.toDocument) : s.value x = v := by
  rw [value, hget]
  cases v with
  | bool b => rfl
  | int i =>
    rw [Value.toDocument, Value.ofDocument?, Value.ofInteger, Decimal.toInt64?_toInt]
    rfl
  | _ => cases h

/-! ### Requests to the scene -/

namespace State

variable {s t : State}

theorem createVector_settings {v : Vector} (h : s.createVector v = .ok t) :
    t.settings = s.settings := by
  rw [createVector_eq] at h
  split at h
  · cases h
  · cases h
    rfl

theorem createMatrix_settings {m : Matrix} (h : s.createMatrix m = .ok t) :
    t.settings = s.settings := by
  rw [createMatrix_eq] at h
  split at h
  · cases h
  · cases h
    rfl

theorem replaceVector_settings {key : String} {v : Vector} (h : s.replaceVector key v = .ok t) :
    t.settings = s.settings := by
  obtain ⟨-, rfl⟩ := replaceVector_ok h
  rfl

theorem replaceMatrix_settings {key : String} {m : Matrix} (h : s.replaceMatrix key m = .ok t) :
    t.settings = s.settings := by
  obtain ⟨-, rfl⟩ := replaceMatrix_ok h
  rfl

theorem destroyVector_settings {key : String} {v : Vector}
    (h : s.destroyVector key = some (v, t)) : t.settings = s.settings := by
  rw [destroyVector_eq, Option.map_eq_some_iff] at h
  obtain ⟨_, -, h⟩ := h
  cases h
  rfl

theorem destroyMatrix_settings {key : String} {m : Matrix}
    (h : s.destroyMatrix key = some (m, t)) : t.settings = s.settings := by
  rw [destroyMatrix_eq, Option.map_eq_some_iff] at h
  obtain ⟨_, -, h⟩ := h
  cases h
  rfl

theorem showVector_settings {key : String} {visible : Bool}
    (h : s.showVector key visible = some t) : t.settings = s.settings := by
  rw [showVector_eq] at h
  split at h
  · cases h
    rfl
  · cases h

theorem showMatrix_settings {key : String} {visible : Bool}
    (h : s.showMatrix key visible = some t) : t.settings = s.settings := by
  rw [showMatrix_eq] at h
  split at h
  · cases h
    rfl
  · cases h

end State

end VectorScene.Scene

namespace VectorScene.Command

open Scene

/-! ### Changes -/

namespace Workspace

variable {w : Workspace}

theorem finish_settings {x : Except Scene.Error Scene.State}
    (hx : ∀ s, x = .ok s → s.settings = w.scene.settings) (result : Value) :
    (w.finish x result).2.scene.settings = w.scene.settings := by
  cases x with
  | ok s => exact hx s rfl
  | error fault => rfl

theorem addVector_settings (w : Workspace) (name : String) (sketch : Sketch) :
    (w.addVector name sketch).2.scene.settings = w.scene.settings := by
  rw [addVector_eq]
  exact finish_settings (w := ⟨w.scene, (sketch.draw name w.draws).2⟩)
    (fun _ => State.createVector_settings) _

theorem addMatrix_settings (w : Workspace) (name : String) (transform : Geometry.Transform) :
    (w.addMatrix name transform).2.scene.settings = w.scene.settings :=
  finish_settings (fun _ => State.createMatrix_settings) _

theorem createAll_settings (vs : List Scene.Vector) (s : Scene.State) :
    (createAll vs s).2.settings = s.settings := by
  induction vs generalizing s with
  | nil => rfl
  | cons v rest ih =>
    rw [createAll]
    cases hcreate : s.createVector v with
    | error fault => rfl
    | ok s' => exact (ih s').trans (State.createVector_settings hcreate)

theorem addVectors_settings (w : Workspace) (vs : List Scene.Vector) :
    (w.addVectors vs).2.scene.settings = w.scene.settings := by
  have hall := createAll_settings vs w.scene
  unfold addVectors
  cases clash? w.scene [] vs with
  | some name => rfl
  | none =>
    cases hcreate : createAll vs w.scene with
    | mk result s =>
      rw [hcreate] at hall
      cases result with
      | error fault => exact hall
      | ok _ => cases vs.isEmpty <;> exact hall

theorem Spared.settings {w' : Workspace} (h : w.Spared w') :
    w'.scene.settings = w.scene.settings := by
  rw [h.scene]

end Workspace

namespace Change

/-- The settings that a change sets, if it sets them. -/
def sets? : Change → Option Settings
  | settings s _ => some s
  | _ => none

theorem Common.sets? {change : Change} (h : change.Common) : change.sets? = none := by
  cases change with
  | settings s result => exact h.elim
  | _ => rfl

/-- **The settings behind a change** are those that it sets, or those before it. -/
theorem run_settings (change : Change) (w : Workspace) :
    (change.run w).2.scene.settings = change.sets?.getD w.scene.settings := by
  cases change with
  | resultVector sketch => exact Workspace.addVector_settings _ _ _
  | resultVectors sketches =>
    exact (Workspace.addVectors_settings _ _).trans
      (Workspace.nameResults_spared sketches w).settings
  | randomVectors count length unit mode =>
    exact (Workspace.addVectors_settings _ _).trans
      (Workspace.nameRandoms_spared length unit mode count w).settings
  | resultMatrix transform => exact Workspace.addMatrix_settings _ _ _
  | newVector name sketch => exact Workspace.addVector_settings _ _ _
  | newMatrix name transform => exact Workspace.addMatrix_settings _ _ _
  | putMatrix name transform =>
    refine Workspace.finish_settings (fun s hs => ?_) _
    split at hs
    · exact State.replaceMatrix_settings hs
    · exact State.createMatrix_settings hs
  | replaceVector key name sketch menu =>
    simp only [run]
    cases hreplace : w.scene.replaceVector key (sketch.draw name w.draws).1 with
    | error fault => rfl
    | ok s =>
      have hs := State.replaceVector_settings hreplace
      cases menu <;> exact hs
  | replaceMatrix key name transform options =>
    exact Workspace.finish_settings (fun _ => State.replaceMatrix_settings) _
  | destroyVector key =>
    simp only [run]
    split
    · rename_i hfound
      have hs := State.destroyVector_settings hfound
      exact hs
    · rfl
  | destroyMatrix key =>
    simp only [run]
    split
    · rename_i hfound
      have hs := State.destroyMatrix_settings hfound
      exact hs
    · rfl
  | showVector key visible =>
    simp only [run]
    split
    · rename_i hfound
      have hs := State.showVector_settings hfound
      exact hs
    · rfl
  | showMatrix key visible =>
    simp only [run]
    split
    · rename_i hfound
      have hs := State.showMatrix_settings hfound
      exact hs
    · rfl
  | clear => rfl
  | reset =>
    have hall := Workspace.createAll_settings Workspace.layout w.scene.clear
    simp only [run]
    split
    all_goals
      rename_i hcreate
      rw [hcreate] at hall
      exact hall
  | camera c result => rfl
  | settings s result => rfl

end Change

/-! ### The commands for settings -/

namespace Args

variable {args : Args} {name : String}

theorem fault?_string_iff : args.fault? (required name .string) = none ↔
    ∃ text, args.get? name = some (.string text) := by
  constructor
  · intro h
    have hget : args.get? (required name .string).name = args.get? name := rfl
    rw [fault?, hget] at h
    cases hv : args.get? name with
    | none =>
      rw [hv] at h
      cases h
    | some v =>
      rw [hv] at h
      cases v with
      | string text => exact ⟨text, rfl⟩
      | _ => cases h
  · rintro ⟨text, htext⟩
    exact fault?_of_accepts htext rfl

theorem fault?_any_iff : args.fault? (required name .any) = none ↔
    ∃ v, args.get? name = some v := by
  constructor
  · intro h
    have hget : args.get? (required name .any).name = args.get? name := rfl
    rw [fault?, hget] at h
    cases hv : args.get? name with
    | none =>
      rw [hv] at h
      cases h
    | some v => exact ⟨v, rfl⟩
  · rintro ⟨v, hv⟩
    exact fault?_of_accepts hv rfl

end Args

namespace Builtin

variable {args : Args} {name : String} {v : Value}

theorem setSceneSetting_mem : setSceneSetting ∈ Builtin.all := by
  simp [Builtin.all, appearanceCommands]

theorem getSceneSetting_mem : getSceneSetting ∈ Builtin.all := by
  simp [Builtin.all, appearanceCommands]

theorem resetSceneSettings_mem : resetSceneSettings ∈ Builtin.all := by
  simp [Builtin.all, appearanceCommands]

theorem fit_setSceneSetting : args.Fit setSceneSetting.definition.parameters ↔
    (∃ name, args.get? "name" = some (.string name)) ∧ ∃ v, args.get? "value" = some v := by
  rw [← Args.fault?_string_iff, ← Args.fault?_any_iff]
  exact List.forall_mem_cons.trans (and_congr_right fun _ => List.forall_mem_singleton)

theorem fit_getSceneSetting : args.Fit getSceneSetting.definition.parameters ↔
    ∃ name, args.get? "name" = some (.string name) := by
  rw [← Args.fault?_string_iff]
  exact List.forall_mem_singleton

theorem setSceneSetting_plan (hname : args.get? "name" = some (.string name))
    (hvalue : args.get? "value" = some v) (view : View) :
    setSceneSetting.plan view args.present =
      match view.scene.settings.setNamed name v.toDocument with
      | .ok s => .ok (.change (.settings s v))
      | .error fault => .error (.scene fault) := by
  have hname : args.present.string "name" = .ok name :=
    Args.string_of_get? ((args.get?_present "name").trans hname)
  have hvalue : args.present.get? "value" = some v := (args.get?_present "value").trans hvalue
  simp only [setSceneSetting, hname, hvalue, bind, Except.bind]
  cases view.scene.settings.setNamed name v.toDocument <;> rfl

theorem getSceneSetting_plan (hname : args.get? "name" = some (.string name)) (view : View) :
    getSceneSetting.plan view args.present =
      match view.scene.settings.getNamed name with
      | .ok d => .ok (.answer ((Value.ofDocument? d).getD .absent))
      | .error fault => .error (.scene fault) := by
  have hname : args.present.string "name" = .ok name :=
    Args.string_of_get? ((args.get?_present "name").trans hname)
  simp only [getSceneSetting, hname, bind, Except.bind]
  cases view.scene.settings.getNamed name <;> rfl

end Builtin

/-! ### What a call leaves -/

namespace Call

variable {c : Call} {x : Setting} {v : Value} {e : Engine} {b : Builtin} {plan : Plan}

/-- The value that a call leaves for a setting: its default if all settings are reset, or the value
that is accepted for it. -/
def leaves? (x : Setting) (c : Call) : Option Value :=
  if c.name = "resetSceneSettings" then some (({} : Settings).value x)
  else if c.name = "setSceneSetting" then
    match c.args.get? "name", c.args.get? "value" with
    | some (.string name), some v => if name = x.name ∧ x.accepts v then some v else none
    | _, _ => none
  else none

theorem leaves?_reset (hc : c.name = "resetSceneSettings") :
    c.leaves? x = some (({} : Settings).value x) := if_pos hc

theorem leaves?_set (hc : c.name = "setSceneSetting") : c.leaves? x = some v ↔
    c.args.get? "name" = some (.string x.name) ∧ c.args.get? "value" = some v ∧ x.accepts v := by
  have hne : c.name ≠ "resetSceneSettings" := by
    rw [hc]
    decide
  unfold leaves?
  simp only [if_neg hne, if_pos hc]
  split
  · rename_i name value hname hvalue
    simp only [hname, hvalue, Option.some.injEq, Value.string.injEq, ite_eq_iff, reduceCtorEq,
      and_false, or_false]
    constructor
    · rintro ⟨⟨rfl, haccepts⟩, rfl⟩
      exact ⟨rfl, rfl, haccepts⟩
    · rintro ⟨rfl, rfl, haccepts⟩
      exact ⟨⟨rfl, haccepts⟩, rfl⟩
  · rename_i hnot
    simp only [reduceCtorEq, false_iff]
    rintro ⟨hname, hvalue, -⟩
    exact hnot _ _ hname hvalue

theorem leaves?_other (hset : c.name ≠ "setSceneSetting") (hreset : c.name ≠ "resetSceneSettings") :
    c.leaves? x = none := by
  unfold leaves?
  rw [if_neg hreset, if_neg hset]

/-- A call that is accepted sets its setting, and no other one. -/
theorem settles_set (hc : c.name = "setSceneSetting") (h : c.leaves? x = some v) (e : Engine) :
    ∃ s, c.Settles e Builtin.setSceneSetting (.change (.settings s v)) ∧
      s.get x = v.toDocument ∧ ∀ y, y ≠ x → s.get y = e.scene.settings.get y := by
  obtain ⟨hname, hvalue, haccepts⟩ := (leaves?_set hc).1 h
  obtain ⟨s, hset⟩ : ∃ s, e.scene.settings.set x v.toDocument = .ok s :=
    Settings.exists_set_iff.2 (Setting.accepts_iff.1 haccepts)
  have hnamed : e.builtinView.scene.settings.setNamed x.name v.toDocument = .ok s := by
    show e.scene.settings.setNamed x.name v.toDocument = .ok s
    rw [Settings.setNamed_name, hset]
    rfl
  refine ⟨s, ⟨Builtin.setSceneSetting_mem, hc.symm,
    Builtin.fit_setSceneSetting.2 ⟨⟨_, hname⟩, _, hvalue⟩, ?_⟩, Settings.get_of_set hset⟩
  rw [Builtin.setSceneSetting_plan hname hvalue, hnamed]

/-- Only calls that are accepted settle on a plan. -/
theorem Settles.accepted (h : c.Settles e b plan) (hc : c.name = "setSceneSetting") :
    ∃ x v, c.leaves? x = some v := by
  obtain rfl := Builtin.eq_of_name h.mem Builtin.setSceneSetting_mem (h.name.trans hc)
  obtain ⟨⟨name, hname⟩, v, hvalue⟩ := Builtin.fit_setSceneSetting.1 h.fit
  have hplan := h.plan
  rw [Builtin.setSceneSetting_plan hname hvalue, Settings.setNamed] at hplan
  cases hx : Setting.ofName? name with
  | none =>
    rw [hx] at hplan
    cases hplan
  | some x =>
    rw [hx] at hplan
    obtain rfl := Setting.name_of_ofName? hx
    cases hset : e.builtinView.scene.settings.set x v.toDocument with
    | error cause =>
      simp only [hset, Except.mapError] at hplan
      cases hplan
    | ok s =>
      have htakes : x.Takes v.toDocument := Settings.exists_set_iff.1 ⟨s, hset⟩
      exact ⟨x, v, (leaves?_set hc).2 ⟨hname, hvalue, Setting.accepts_iff.2 htakes⟩⟩

theorem settles_reset (hc : c.name = "resetSceneSettings") (e : Engine) :
    c.Settles e Builtin.resetSceneSettings (.change (.settings {} .absent)) :=
  ⟨Builtin.resetSceneSettings_mem, hc.symm, List.forall_mem_nil _, rfl⟩

theorem Settles.unique (h : c.Settles e b plan) {b' : Builtin} {plan' : Plan}
    (h' : c.Settles e b' plan') : b = b' ∧ plan = plan' := by
  obtain rfl := Builtin.eq_of_name h.mem h'.mem (h.name.trans h'.name.symm)
  exact ⟨rfl, Except.ok.inj (h.plan.symm.trans h'.plan)⟩

/-- The change that a call makes itself leaves what the call leaves. -/
theorem Settles.own (h : c.Settles e b plan) (x : Setting) :
    (∀ k ∈ plan.changes, (k.run e.workspace).2.scene.settings.value x =
      (c.leaves? x).getD (e.scene.settings.value x)) ∧
    (plan.changes = [] → c.leaves? x = none) := by
  by_cases hset : c.name = "setSceneSetting"
  · obtain ⟨y, v, hleaves⟩ := h.accepted hset
    obtain ⟨s, hsettles, hget, hothers⟩ := settles_set hset hleaves e
    obtain ⟨-, rfl⟩ := h.unique hsettles
    obtain ⟨hname, -, haccepts⟩ := (leaves?_set hset).1 hleaves
    refine ⟨List.forall_mem_singleton.2 ?_, nofun⟩
    rw [Change.run_settings]
    show s.value x = _
    by_cases hx : x = y
    · rw [hx, hleaves, Option.getD_some]
      exact Settings.value_eq haccepts hget
    · have hnone : c.leaves? x = none := by
        by_contra hsome
        obtain ⟨w, hw⟩ := Option.ne_none_iff_exists'.1 hsome
        have hnames := ((leaves?_set hset).1 hw).1.symm.trans hname
        exact hx (Setting.name_injective (by simpa using hnames))
      rw [hnone, Option.getD_none, Settings.value, hothers x hx, Settings.value]
  by_cases hreset : c.name = "resetSceneSettings"
  · obtain ⟨-, rfl⟩ := h.unique (settles_reset hreset e)
    refine ⟨List.forall_mem_singleton.2 ?_, nofun⟩
    rw [Change.run_settings, leaves?_reset hreset]
    rfl
  have hplan : plan.Makes fun k => k.sets? = none := by
    rcases Builtin.all_common h.mem with rfl | rfl | rfl | hcommon
    · have hgives : Gives (Plan.Makes fun k => k.sets? = none)
          (Builtin.normalizeVector.plan e.builtinView c.args.present) :=
        Builtin.gives_bind fun _ => Builtin.makes_change rfl
      exact hgives plan h.plan
    · exact absurd h.name.symm hset
    · exact absurd h.name.symm hreset
    · exact fun k hk => (hcommon _ _ plan h.plan k hk).sets?
  rw [leaves?_other hset hreset]
  refine ⟨fun k hk => ?_, fun _ => rfl⟩
  rw [Change.run_settings, hplan k hk]
  rfl

/-- A call that leaves something settles on a plan. -/
theorem settles_of_leaves (h : c.leaves? x = some v) (e : Engine) :
    ∃ b plan, c.Settles e b plan := by
  by_cases hset : c.name = "setSceneSetting"
  · obtain ⟨s, hsettles, -⟩ := settles_set hset h e
    exact ⟨_, _, hsettles⟩
  by_cases hreset : c.name = "resetSceneSettings"
  · exact ⟨_, _, settles_reset hreset e⟩
  · rw [leaves?_other hset hreset] at h
    cases h

end Call

/-! ### Calls that are made -/

mutual

/-- The calls in a tree, each before those inside it. -/
def Happening.made : Happening → List Call
  | .cleared => []
  | .called c _ inner => c :: Happening.madeOf inner

/-- The calls in trees, one tree after another. -/
def Happening.madeOf : List Happening → List Call
  | [] => []
  | first :: rest => first.made ++ Happening.madeOf rest

end

/-- The calls that are made in a call, with itself. -/
def Call.made (c : Call) (e : Engine) : List Call := c :: Happening.madeOf (c.inner e)

/-- The calls that are made in a run. -/
def Engine.made : List (Bool × Call) → Engine → List Call
  | [], _ => []
  | c :: rest, e => c.2.made e ++ Engine.made rest (e.call Table.builtin c.1 c.2).2

/-- The value that was left last. -/
def lastLeft? (x : Setting) (calls : List Call) : Option Value :=
  calls.reverse.findSome? (Call.leaves? x)

theorem lastLeft?_append (x : Setting) (calls calls' : List Call) :
    lastLeft? x (calls ++ calls') = (lastLeft? x calls').or (lastLeft? x calls) := by
  rw [lastLeft?, List.reverse_append, List.findSome?_append]
  rfl

theorem lastLeft?_singleton (x : Setting) (c : Call) : lastLeft? x [c] = c.leaves? x := by
  simp [lastLeft?]

namespace Engine

/-- From one engine to a later one the settings are those that calls left. -/
def Recalls (e : Engine) (calls : List Call) (e' : Engine) : Prop :=
  ∀ x, e'.scene.settings.value x = (lastLeft? x calls).getD (e.scene.settings.value x)

namespace Recalls

variable {e e' e'' : Engine} {calls calls' : List Call}

theorem of_workspace (h : e'.workspace = e.workspace) : e.Recalls [] e' := by
  intro x
  have hscene : e'.scene = e.scene := congrArg (·.scene) h
  rw [hscene]
  rfl

theorem trans (h : e.Recalls calls e') (h' : e'.Recalls calls' e'') :
    e.Recalls (calls ++ calls') e'' := by
  intro x
  rw [h' x, h x, lastLeft?_append]
  cases lastLeft? x calls' <;> rfl

theorem settings (h : e.Recalls calls e') (hscene : e''.workspace = e'.workspace) :
    e.Recalls calls e'' := by
  have htrans := h.trans (of_workspace hscene)
  rwa [List.append_nil] at htrans

end Recalls

/-- Calls in a list recall what each of them does. -/
theorem collect_recalls {surface : Bool} {calls : List Call}
    (hcalls : ∀ k ∈ calls, ∀ e : Engine, e.Recalls (k.made e) (e.call Table.builtin surface k).2)
    {next : List Value → Handler} (hnext : ∀ vs, ∃ result, next vs = .done result) (e : Engine) :
    e.Recalls
      (Happening.madeOf ((Handler.collect surface calls next).happenings
        (fun surface k e => e.call Table.builtin surface k) Call.inner Table.builtin.definitions e))
      ((Handler.collect surface calls next).run
        (fun surface k e => e.call Table.builtin surface k) Table.builtin.definitions e).2 := by
  induction calls generalizing next e with
  | nil =>
    obtain ⟨result, hdone⟩ := hnext []
    rw [Handler.collect, hdone]
    exact .of_workspace rfl
  | cons k rest ih =>
    obtain ⟨hk, hrest⟩ := List.forall_mem_cons.1 hcalls
    simp only [Handler.collect, Handler.run, Handler.happenings, Happening.madeOf, Happening.made]
    refine (hk e).trans ?_
    cases (e.call Table.builtin surface k).1 with
    | error fault => exact .of_workspace rfl
    | ok v => exact ih hrest (fun vs => hnext (v :: vs)) _

/-- **A call** leaves the settings that are told by the calls in it. -/
theorem call_recalls (surface : Bool) (c : Call) (e : Engine) :
    e.Recalls (c.made e) (e.call Table.builtin surface c).2 := by
  -- by what the call may start
  induction c using Call.wellFounded_starts.induction generalizing surface e with
  | _ c ih =>
  by_cases hsettles : ∃ b plan, c.Settles e b plan
  · obtain ⟨b, plan, hsettles⟩ := hsettles
    have hworkspace := hsettles.workspace surface
    rw [Call.made, (hsettles.outer surface).2]
    -- a plan that changes something makes no calls
    have hown : ∀ {k : Change}, k ∈ plan.changes →
        (plan.enact e).2.workspace = (k.run e.workspace).2 →
        e.Recalls [c] (e.call Table.builtin surface c).2 := by
      intro k hk henact x
      have hx := (hsettles.own x).1 k hk
      rw [← henact, ← hworkspace] at hx
      rw [lastLeft?_singleton]
      exact hx
    -- and one that changes nothing leaves nothing itself
    have hidle : plan.changes = [] → e.Recalls [c] e := by
      intro hnone x
      rw [lastLeft?_singleton, (hsettles.own x).2 hnone]
      rfl
    cases plan with
    | answer result => exact (hidle rfl).settings hworkspace
    | change k => exact hown List.mem_cons_self rfl
    | forget result => exact (hidle rfl).settings hworkspace
    | reset forgets =>
      cases forgets with
      | false => exact hown List.mem_cons_self rfl
      | true => exact hown List.mem_cons_self rfl
    | delegate k =>
      have hk := ih k (hsettles.starts List.mem_cons_self) false e
      have hmade : Happening.madeOf ((Plan.delegate k).inner e) = k.made e := List.append_nil _
      rw [hmade]
      exact ((hidle rfl).trans hk).settings hworkspace
    | replay calls =>
      have hnext (results : List Value) :
          ∃ result, Handler.done (.ok (.list results)) = .done result := ⟨_, rfl⟩
      have hall := collect_recalls (fun k hk => ih k (hsettles.starts hk) true) hnext e
      exact ((hidle rfl).trans hall).settings hworkspace
  · rcases c.settles_or_idle e with hsome | ⟨hnone, hidle⟩
    · exact absurd hsome hsettles
    · have hleaves : ∀ x, c.leaves? x = none := by
        intro x
        by_contra hsome
        obtain ⟨v, hv⟩ := Option.ne_none_iff_exists'.1 hsome
        exact hsettles (Call.settles_of_leaves hv e)
      have hrecalls : e.Recalls [c] e := by
        intro x
        rw [lastLeft?_singleton, hleaves]
        rfl
      rw [Call.made, hnone]
      exact hrecalls.settings (hidle surface)

/-- **A run** leaves the settings that are told by the calls in it. -/
theorem callAll_recalls (calls : List (Bool × Call)) (e : Engine) :
    e.Recalls (Engine.made calls e) (e.callAll calls) := by
  induction calls generalizing e with
  | nil => exact .of_workspace rfl
  | cons c rest ih => exact (e.call_recalls c.1 c.2).trans (ih _)

/-! ### Answers of the commands -/

variable {c : Call} {x : Setting} {v : Value}

/-- A call that is accepted gives its value back. -/
theorem call_accepted (hc : c.name = "setSceneSetting") (h : c.leaves? x = some v) (surface : Bool)
    (e : Engine) : (e.call Table.builtin surface c).1 = .ok v := by
  obtain ⟨s, hsettles, -⟩ := Call.settles_set hc h e
  rw [(hsettles.outer surface).1]
  rfl

/-- A call that is not accepted fails, and does nothing. -/
theorem call_not_accepted (hc : c.name = "setSceneSetting") (h : ∀ x, c.leaves? x = none)
    (surface : Bool) (e : Engine) :
    ∃ fault, e.call Table.builtin surface c = (.error fault, e) := by
  have hget : Table.builtin.get? c.name = some Builtin.setSceneSetting.command := by
    rw [hc]
    exact Table.builtin_get?_self Builtin.setSceneSetting_mem
  cases hv : c.args.validate Builtin.setSceneSetting.definition.parameters with
  | error fault =>
    refine ⟨fault, ?_⟩
    rw [e.call_eq_dispatch, dispatch_builtin hget, hv]
  | ok args =>
    obtain rfl := validate_ok hv
    have hfit := Args.validate_fit hv
    cases hplan : Builtin.setSceneSetting.plan e.builtinView c.args.present with
    | ok plan =>
      have hsettles : c.Settles e Builtin.setSceneSetting plan :=
        ⟨Builtin.setSceneSetting_mem, hc.symm, hfit, hplan⟩
      obtain ⟨y, w, hleaves⟩ := hsettles.accepted hc
      rw [h y] at hleaves
      cases hleaves
    | error fault =>
      have hfault : fault.lookup? = none := by
        obtain ⟨⟨name, hname⟩, w, hvalue⟩ := Builtin.fit_setSceneSetting.1 hfit
        rw [Builtin.setSceneSetting_plan hname hvalue, Settings.setNamed] at hplan
        cases hy : Setting.ofName? name with
        | none =>
          rw [hy] at hplan
          cases hplan
          rfl
        | some y =>
          simp only [hy] at hplan
          cases hset : e.builtinView.scene.settings.set y w.toDocument with
          | ok s =>
            rw [hset] at hplan
            cases hplan
          | error cause =>
            rw [hset] at hplan
            cases hplan
            rfl
      exact ⟨fault, call_refused hget hv hplan hfault surface⟩

theorem settles_getSceneSetting (hc : c.name = "getSceneSetting")
    (hname : c.args.get? "name" = some (.string x.name)) (e : Engine) :
    c.Settles e Builtin.getSceneSetting (.answer (e.scene.settings.value x)) := by
  refine ⟨Builtin.getSceneSetting_mem, hc.symm, Builtin.fit_getSceneSetting.2 ⟨_, hname⟩, ?_⟩
  have hnamed : e.builtinView.scene.settings.getNamed x.name = .ok (e.scene.settings.get x) :=
    Settings.getNamed_name _ x
  rw [Builtin.getSceneSetting_plan hname, hnamed]
  rfl

/-- A setting that there is reads as its value. -/
theorem call_getSceneSetting (hc : c.name = "getSceneSetting")
    (hname : c.args.get? "name" = some (.string x.name)) (surface : Bool) (e : Engine) :
    (e.call Table.builtin surface c).1 = .ok (e.scene.settings.value x) := by
  rw [((settles_getSceneSetting hc hname e).outer surface).1]
  rfl

/-- Another name is none of a setting. -/
theorem call_getSceneSetting_unknown {name : String} (hc : c.name = "getSceneSetting")
    (hname : c.args.get? "name" = some (.string name)) (hnone : ∀ x : Setting, x.name ≠ name)
    (surface : Bool) (e : Engine) :
    (e.call Table.builtin surface c).1 = .error (.scene (.unknownSetting name)) := by
  have hget : Table.builtin.get? c.name = some Builtin.getSceneSetting.command := by
    rw [hc]
    exact Table.builtin_get?_self Builtin.getSceneSetting_mem
  have hplan : Builtin.getSceneSetting.plan e.builtinView c.args.present =
      .error (.scene (.unknownSetting name)) := by
    rw [Builtin.getSceneSetting_plan hname, Settings.getNamed, Settings.ofName?_eq_none hnone]
  have hfit := Builtin.fit_getSceneSetting.2 ⟨_, hname⟩
  rw [call_refused hget hfit.validate hplan rfl]

/-- The commands for settings make no other calls. -/
theorem made_of_name (hc : c.name ∈ ["setSceneSetting", "getSceneSetting", "resetSceneSettings"])
    (e : Engine) : c.made e = [c] := by
  have hinner : c.inner e = [] := by
    by_cases hsettles : ∃ b plan, c.Settles e b plan
    · obtain ⟨b, plan, hsettles⟩ := hsettles
      rw [(hsettles.outer false).2]
      simp only [List.mem_cons, List.not_mem_nil, or_false] at hc
      rcases hc with hc | hc | hc
      · obtain ⟨x, v, hleaves⟩ := hsettles.accepted hc
        obtain ⟨s, hset, -⟩ := Call.settles_set hc hleaves e
        rw [(hsettles.unique hset).2]
        rfl
      · obtain rfl := Builtin.eq_of_name hsettles.mem Builtin.getSceneSetting_mem
          (hsettles.name.trans hc)
        obtain ⟨name, hname⟩ := Builtin.fit_getSceneSetting.1 hsettles.fit
        have hplan := hsettles.plan
        rw [Builtin.getSceneSetting_plan hname] at hplan
        split at hplan
        · cases hplan
          rfl
        · cases hplan
      · rw [(hsettles.unique (Call.settles_reset hc e)).2]
        rfl
    · exact (c.settles_or_idle e).elim (fun h => absurd h hsettles) (·.1)
  rw [Call.made, hinner]
  rfl

end Engine

/-! ### Settings -/

/-- **Settings are recalled.** By its name, a setting takes the documents of its type and no others;
then it reads as the document, and the other settings as before. A name of no setting is an error.
The way over the members of an object comes to the same. As a command, setting gives the value back
if it has the type of the setting, and otherwise fails and does nothing. After any calls a setting
reads as the value that was left last, be it by a call that was accepted or by a reset, and as in
the beginning if there is none. The calls that count are those that are made; the commands for
settings make no further ones. -/
theorem settings_recalled :
    (∀ (s : Settings) (x : Setting) (d : Json.Document),
      (x.Takes d → ∃ s', s.setNamed x.name d = .ok s' ∧ s'.getNamed x.name = .ok d ∧
        ∀ y, y ≠ x → s'.getNamed y.name = s.getNamed y.name) ∧
      (¬x.Takes d → ∃ cause, s.setNamed x.name d = .error (.wrongSetting x.name cause))) ∧
    (∀ (s : Settings) (name : String) (d : Json.Document), (∀ x : Setting, x.name ≠ name) →
      s.setNamed name d = .error (.unknownSetting name) ∧
        s.getNamed name = .error (.unknownSetting name)) ∧
    (∀ (s : Settings) (name : String) (d : Json.Document),
      s.setMember name d = s.setNamed name d) ∧
    (∀ (surface : Bool) (c : Call) (e : Engine), c.name = "setSceneSetting" →
      (∀ x v, c.leaves? x = some v → (e.call Table.builtin surface c).1 = .ok v) ∧
      ((∀ x, c.leaves? x = none) → ∃ fault, e.call Table.builtin surface c = (.error fault, e))) ∧
    (∀ (calls : List (Bool × Call)) (e : Engine) (surface : Bool) (c : Call) (name : String),
      c.name = "getSceneSetting" → c.args.get? "name" = some (.string name) →
      (∀ x : Setting, x.name = name → ((e.callAll calls).call Table.builtin surface c).1 =
        .ok ((lastLeft? x (Engine.made calls e)).getD (e.scene.settings.value x))) ∧
      ((∀ x : Setting, x.name ≠ name) → ((e.callAll calls).call Table.builtin surface c).1 =
        .error (.scene (.unknownSetting name)))) ∧
    (∀ (calls : List (Bool × Call)) (e : Engine),
      (∀ c ∈ calls, c.2.name ∈ ["setSceneSetting", "getSceneSetting", "resetSceneSettings"]) →
      Engine.made calls e = calls.map (·.2)) := by
  refine ⟨fun s x d => ⟨fun htakes => ?_, fun hnot => ?_⟩, fun s name d hnone => ?_,
    Settings.setMember_eq, fun surface c e hc => ⟨fun x v h => e.call_accepted hc h surface,
      fun h => e.call_not_accepted hc h surface⟩, fun calls e surface c name hc hname =>
    ⟨fun x hx => ?_, fun hnone => Engine.call_getSceneSetting_unknown hc hname hnone surface _⟩,
    fun calls e hcalls => ?_⟩
  · obtain ⟨s', hset⟩ : ∃ s', s.set x d = .ok s' := Settings.exists_set_iff.2 htakes
    obtain ⟨hget, hothers⟩ := Settings.get_of_set hset
    refine ⟨s', by rw [Settings.setNamed_name, hset]; rfl, ?_, fun y hy => ?_⟩
    · rw [Settings.getNamed_name, hget]
    · rw [Settings.getNamed_name, Settings.getNamed_name, hothers y hy]
  · obtain ⟨cause, hcause⟩ := Settings.exists_set_eq_error (s := s) hnot
    exact ⟨cause, by rw [Settings.setNamed_name, hcause]; rfl⟩
  · rw [Settings.setNamed, Settings.getNamed, Settings.ofName?_eq_none hnone]
    exact ⟨rfl, rfl⟩
  · subst hx
    rw [Engine.call_getSceneSetting hc hname, e.callAll_recalls calls x]
  · induction calls generalizing e with
    | nil => rfl
    | cons c rest ih =>
      obtain ⟨hc, hrest⟩ := List.forall_mem_cons.1 hcalls
      rw [Engine.made, Engine.made_of_name hc, ih _ hrest]
      rfl

/-- A call that sets a setting. -/
def setCall (name : String) (v : Value) : Call :=
  ⟨"setSceneSetting", .ofList [("name", .string name), ("value", v)]⟩

/-- A call that reads a setting. -/
def getCall (name : String) : Call := ⟨"getSceneSetting", .ofList [("name", .string name)]⟩

/-- Calls for settings, two of which are refused, and a reset among them. -/
def settingCalls : List (Bool × Call) :=
  [(false, setCall "gridColor" (.int 5)), (true, ⟨"resetSceneSettings", .empty⟩),
    (false, setCall "showGrid" (.bool false)), (false, setCall "gridColor" (.int 4294967296)),
    (true, setCall "xAxisRingColor" (.int 7)), (false, setCall "fog" (.bool true))]

theorem settings_recalled_grid :
    let e := Engine.fresh ⟨fun _ => 0.5, 0⟩ {}
    (∃ s', Settings.setNamed {} "showGrid" (.bool false) = .ok s' ∧
      s'.getNamed "showGrid" = .ok (.bool false) ∧
      s'.getNamed "gridColor" = Settings.getNamed {} "gridColor") ∧
    (∃ cause, Settings.setNamed {} "gridColor" (.float 5) =
      .error (.wrongSetting "gridColor" cause)) ∧
    Settings.setNamed {} "fog" .null = .error (.unknownSetting "fog") ∧
    (∃ fault, e.call Table.builtin true (setCall "fog" (.bool true)) = (.error fault, e)) ∧
    ((e.callAll settingCalls).call Table.builtin true (getCall "showGrid")).1 =
      .ok (.bool false) ∧
    ((e.callAll settingCalls).call Table.builtin false (getCall "gridColor")).1 =
      .ok (.int 0x888888) ∧
    ((e.callAll settingCalls).call Table.builtin false (getCall "fog")).1 =
      .error (.scene (.unknownSetting "fog")) := by
  intro e
  obtain ⟨hset, hunknown, -, hcall, hget, hmade⟩ := settings_recalled
  have hfog : ∀ x : Setting, x.name ≠ "fog" := by
    intro x
    cases x <;> decide
  have hcalls : Engine.made settingCalls e = settingCalls.map (·.2) :=
    hmade settingCalls e (by decide)
  obtain ⟨s', hs', hgrid, hothers⟩ := (hset {} .showGrid (.bool false)).1 rfl
  refine ⟨⟨s', hs', hgrid, hothers .gridColor (by decide)⟩, (hset {} .gridColor (.float 5)).2 id,
    (hunknown {} "fog" .null hfog).1, (hcall true (setCall "fog" (.bool true)) e rfl).2 ?_, ?_, ?_,
    (hget settingCalls e false (getCall "fog") "fog" rfl rfl).2 hfog⟩
  · intro x
    cases x <;> rfl
  · rw [(hget settingCalls e true (getCall "showGrid") "showGrid" rfl rfl).1 .showGrid rfl, hcalls]
    rfl
  · rw [(hget settingCalls e false (getCall "gridColor") "gridColor" rfl rfl).1 .gridColor rfl,
      hcalls]
    rfl

end VectorScene.Command
