import VectorScene.Proofs.Command.Repetition
import VectorScene.Proofs.Scene.Places

/-!
# Changing entities in place

Eight commands change the entity that an argument leads to. They look the entity up, and request
that what they made of it replaces the entity under its name. So a call that succeeds changes one
place of one registry, and that is the place of the entity unless its name is a shortcut that stands
for another name: then the other entity is replaced, and the one that was looked up is still there.

## Main definitions

* `Editor`: a command that changes an entity in place, and what it makes of the entity
* `Editor.Revises`: where a call puts what it makes of an entity
* `Editor.vectors`, `Editor.matrices`: the commands

## Main results

* `Editor.Puts.revises`: commands that replace an entity
* `Editor.HandsOver.revises`: commands that run such a command
* `Editor.vectors_inPlace`, `Editor.matrices_inPlace`: the eight commands
* `dispatch_revises`: a call of one of them
-/

namespace VectorScene.Command

open Scene

/-! ### Calls that succeed -/

section Succeeds

variable {depth : Nat} {e : Engine}

/-- A call that succeeds carries out a plan, and nothing in it recovers. -/
theorem dispatch_succeeds {b : Builtin} {c : Call}
    (hget : Table.builtin.get? c.name = some b.command) {surface : Bool} {result : Value}
    {e' : Engine} (hrun : dispatch Table.builtin (depth + 1) surface c e = (.ok result, e'))
    (hok : ¬recovers Table.builtin (depth + 1) c e) :
    ∃ plan, b.plan e.builtinView c.args.present = .ok plan ∧
      ¬plan.handler.recovers (dispatch Table.builtin depth) (recovers Table.builtin depth)
        Table.builtin.definitions e ∧
      Settled (plan.perform depth e).1 ∧ e'.workspace = (plan.perform depth e).2.workspace := by
  obtain ⟨hv, hsettled, hworkspace, -⟩ := dispatch_ok hget hrun
  rw [recovers_builtin hget] at hok
  unfold Builtin.settle at hsettled hworkspace
  cases hplan : b.plan e.builtinView c.args.present with
  | error fault =>
    -- a fault that is settled is one that the call recovers from
    rw [hplan] at hsettled
    refine absurd ⟨_, hv, ?_⟩ hok
    rw [hplan]
    exact hsettled fault rfl
  | ok plan =>
    rw [hplan] at hsettled hworkspace
    refine ⟨plan, rfl, fun h => hok ⟨_, hv, ?_⟩, hsettled, hworkspace⟩
    rw [hplan]
    exact h

/-- A change that is settled and does not recover succeeds. -/
theorem Plan.change_succeeds {change : Change}
    (hok : ¬(Plan.change change).handler.recovers (dispatch Table.builtin depth)
      (recovers Table.builtin depth) Table.builtin.definitions e)
    (hsettled : Settled ((Plan.change change).perform depth e).1) :
    ∃ v, change.run e.workspace = (.ok v, (change.run e.workspace).2) := by
  rw [recovers_change, perform_change] at hok
  rw [perform_change] at hsettled
  cases hrun : (change.run e.workspace).1 with
  | ok v => exact ⟨v, Prod.ext hrun rfl⟩
  | error fault =>
    rw [hrun] at hok hsettled
    exact absurd ⟨_, rfl, hsettled _ rfl⟩ hok

/-- A command that is run does not recover if the one that runs it does not. -/
theorem Plan.delegate_succeeds {c : Call}
    (hok : ¬(Plan.delegate c).handler.recovers (dispatch Table.builtin depth)
      (recovers Table.builtin depth) Table.builtin.definitions e)
    (hsettled : Settled ((Plan.delegate c).perform depth e).1) :
    ¬recovers Table.builtin depth c e ∧ ∃ v, dispatch Table.builtin depth false c e =
      (.ok v, (dispatch Table.builtin depth false c e).2) := by
  rw [perform_delegate] at hsettled
  refine ⟨fun h => hok (recovers_delegate.2 h), ?_⟩
  cases hrun : (dispatch Table.builtin depth false c e).1 with
  | ok v => exact ⟨v, Prod.ext hrun rfl⟩
  | error fault =>
    have hlookup := hsettled fault hrun
    rw [dispatch_error hrun] at hlookup
    cases hlookup

end Succeeds

/-! ### Editors -/

/-- A command that changes the entity that an argument leads to. -/
structure Editor (α : Type) where
  command : Builtin
  /-- The argument that leads to the entity. -/
  key : String
  /-- What the command makes of the entity. -/
  revise : Args → α → Except Error α

namespace Editor

variable {α : Type} [Entity α]

/-- What was made of the entity that the argument leads to is in the place that the name of the
entity leads to, and every other place is as before. It is the entity's own place just if the name
stands for itself. -/
def Revises (x : Editor α) (args : Args) (r r' : Registry α) : Prop :=
  ∀ ⦃key i e⦄, args.string x.key = .ok key → r.Leads key i e →
    ∃ new j old, x.revise args e = .ok new ∧ r.Leads (Entity.name e) j old ∧
      r.ChangedAt j new r' ∧ (j = i ↔ r.resolve (Entity.name e) = some (Entity.name e))

/-- The command has the entity replaced under its name. -/
def Puts (x : Editor α) (registry : Scene.State → Registry α) : Prop :=
  ∀ ⦃view args plan⦄, x.command.plan view args = .ok plan →
    ∃ key e new change, args.string x.key = .ok key ∧ (registry view.scene).get? key = some e ∧
      x.revise args e = .ok new ∧ plan = .change change ∧
      ∀ ⦃w : Workspace⦄ ⦃result w'⦄, change.run w = (.ok result, w') →
        ((registry w.scene).answer (.replace (Entity.name e) new) w.scene.stage).1.fault? = none ∧
          registry w'.scene = ((registry w.scene).answer (.replace (Entity.name e) new)
            w.scene.stage).2.1

/-- The command runs another one, which makes the same of the same entity. -/
def HandsOver (x t : Editor α) : Prop :=
  ∀ ⦃view args plan⦄, x.command.plan view args = .ok plan →
    ∃ targs, plan = .delegate ⟨t.command.definition.name, targs⟩ ∧
      targs.present.string t.key = args.string x.key ∧
      ∀ e, t.revise targs.present e = x.revise args e

/-- A command that replaces an entity, or runs one that does. -/
structure InPlace (x : Editor α) (registry : Scene.State → Registry α) : Prop where
  get? : Table.builtin.get? x.command.definition.name = some x.command.command
  /-- Arguments that are absent make no difference. -/
  present : ∀ args e, x.revise args.present e = x.revise args e
  puts : x.Puts registry ∨ ∃ t : Editor α, x.HandsOver t ∧ t.Puts registry ∧
    Table.builtin.get? t.command.definition.name = some t.command.command

section Dispatch

variable {x t : Editor α} {registry : Scene.State → Registry α} {es : List α} {c : Call}
  {depth : Nat} {surface : Bool} {result : Value} {e e' : Engine}

/-- **A command that replaces an entity** under its name. -/
theorem Puts.revises (h : x.Puts registry) (hes : (registry e.scene).Lists es)
    (hget : Table.builtin.get? c.name = some x.command.command)
    (hrun : dispatch Table.builtin (depth + 1) surface c e = (.ok result, e'))
    (hok : ¬recovers Table.builtin (depth + 1) c e) :
    x.Revises c.args.present (registry e.scene) (registry e'.scene) := by
  obtain ⟨plan, hplan, hok, hsettled, hworkspace⟩ := dispatch_succeeds hget hrun hok
  obtain ⟨key, v, new, change, hkey, hv, hnew, rfl, hchange⟩ := h hplan
  obtain ⟨value, hchanged⟩ := Plan.change_succeeds hok hsettled
  obtain ⟨hgranted, hregistry⟩ := hchange hchanged
  have hscene : e'.scene = (change.run e.workspace).2.scene :=
    congrArg Workspace.scene hworkspace
  have hbefore : e.workspace.scene = e.scene := rfl
  have hview : e.builtinView.scene = e.scene := rfl
  rw [hbefore] at hgranted hregistry
  rw [hview] at hv
  obtain ⟨j, old, hj, hchangedAt⟩ := hes.replace_changedAt hgranted
  rw [hscene, hregistry]
  intro key' i v' hkey' hi
  -- the key leads to one entity only
  obtain rfl : key = key' := Except.ok.inj (hkey.symm.trans hkey')
  obtain rfl : v = v' := by
    rw [hes.get?_eq, hes.leads_iff.1 hi] at hv
    exact (Option.some.inj hv).symm
  exact ⟨new, j, old, hnew, hj, hchangedAt, hes.own_place_iff hi hj⟩

/-- **A command that runs a command** which replaces an entity under its name. -/
theorem HandsOver.revises (h : x.HandsOver t) (ht : t.Puts registry)
    (hes : (registry e.scene).Lists es)
    (hget : Table.builtin.get? c.name = some x.command.command)
    (htarget : Table.builtin.get? t.command.definition.name = some t.command.command)
    (hrun : dispatch Table.builtin (depth + 1) surface c e = (.ok result, e'))
    (hok : ¬recovers Table.builtin (depth + 1) c e) :
    x.Revises c.args.present (registry e.scene) (registry e'.scene) := by
  obtain ⟨plan, hplan, hok, hsettled, hworkspace⟩ := dispatch_succeeds hget hrun hok
  obtain ⟨targs, rfl, hkey, hrevise⟩ := h hplan
  obtain ⟨hinner, value, hinnerrun⟩ := Plan.delegate_succeeds hok hsettled
  cases depth with
  | zero => cases hinnerrun
  | succ depth =>
    have hrevises := ht.revises hes (c := ⟨t.command.definition.name, targs⟩) htarget hinnerrun
      hinner
    -- recording the outer call changes nothing in the scene
    rw [Plan.perform_delegate] at hworkspace
    have hscene := congrArg Workspace.scene hworkspace
    have hscene : e'.scene = (dispatch Table.builtin (depth + 1) false
      ⟨t.command.definition.name, targs⟩ e).2.scene := hscene
    rw [hscene]
    intro key i v hv hi
    rw [← hkey] at hv
    obtain ⟨new, j, old, hnew, hj⟩ := hrevises hv hi
    exact ⟨new, j, old, (hrevise v).symm.trans hnew, hj⟩

/-- **A call that succeeds** of a command that changes an entity in place. -/
theorem InPlace.revises (h : x.InPlace registry) (hes : (registry e.scene).Lists es)
    (hc : c.name = x.command.definition.name)
    (hrun : dispatch Table.builtin depth surface c e = (.ok result, e'))
    (hok : ¬recovers Table.builtin depth c e) :
    x.Revises c.args (registry e.scene) (registry e'.scene) := by
  cases depth with
  | zero => cases hrun
  | succ depth =>
    have hget : Table.builtin.get? c.name = some x.command.command := hc ▸ h.get?
    have hrevises : x.Revises c.args.present (registry e.scene) (registry e'.scene) := by
      rcases h.puts with hputs | ⟨t, hhands, hputs, htarget⟩
      · exact hputs.revises hes hget hrun hok
      · exact hhands.revises hputs hes hget htarget hrun hok
    -- the command looks at the arguments that are given
    intro key i v hkey hi
    have hkey : c.args.present.string x.key = .ok key := by
      rw [← hkey]
      simp only [Args.string, Args.string?, Args.typed, Args.get?_present]
    rw [← h.present]
    exact hrevises hkey hi

end Dispatch

end Editor

/-! ### The commands -/

/-- The edit that leaves everything as it is. -/
def VectorEdit.nothing : VectorEdit where
  name := none
  startX := none
  startY := none
  startZ := none
  tipX := none
  tipY := none
  tipZ := none
  mode := none
  label := none
  color := none
  labelled := none
  visible := none
  scale := none

/-- The edit that leaves everything as it is. -/
def MatrixEdit.nothing : MatrixEdit where
  name := none
  label := none
  visible := none
  labelled := none
  transform := none

/-- A vector of length one from the same start, with the same appearance. -/
def normalized (v : Scene.Vector) : Scene.Vector :=
  .build v.name v.start (v.start + v.normal) v.color v.options

/-- An editor that makes an edit of a vector. -/
def Editor.ofVectorEdit (command : Builtin) (key : String)
    (read : Args → Except Error VectorEdit) : Editor Scene.Vector where
  command := command
  key := key
  revise args v := do return (← read args).apply v

/-- An editor that makes an edit of a matrix. -/
def Editor.ofMatrixEdit (command : Builtin) (key : String)
    (read : Args → Except Error MatrixEdit) : Editor Scene.Matrix where
  command := command
  key := key
  revise args m := do return (← read args).apply m

namespace Editor

def updateVector : Editor Scene.Vector :=
  ofVectorEdit Builtin.updateVector "vector" VectorEdit.read

def renameVector : Editor Scene.Vector :=
  ofVectorEdit Builtin.renameVector "oldVectorName" fun args => do
    return { VectorEdit.nothing with name := some (← args.string "newVectorName") }

def setVectorRenderMode : Editor Scene.Vector :=
  ofVectorEdit Builtin.setVectorRenderMode "vector" fun args => do
    return { VectorEdit.nothing with mode := ← args.mode? "renderMode" }

def setVectorDisplayText : Editor Scene.Vector :=
  ofVectorEdit Builtin.setVectorDisplayText "vector" fun args => do
    let label ← args.string "textToDisplay"
    return { VectorEdit.nothing with label := some label, labelled := some true }

def showVectorDisplayText : Editor Scene.Vector :=
  ofVectorEdit Builtin.showVectorDisplayText "vector" fun args => do
    return { VectorEdit.nothing with labelled := some (← args.bool "displayTextEnabled") }

def normalizeVector : Editor Scene.Vector where
  command := Builtin.normalizeVector
  key := "vector"
  revise _ v := .ok (normalized v)

def updateMatrix : Editor Scene.Matrix :=
  ofMatrixEdit Builtin.updateMatrix "oldMatrixName" MatrixEdit.read

def renameMatrix : Editor Scene.Matrix :=
  ofMatrixEdit Builtin.renameMatrix "oldMatrixName" fun args => do
    return { MatrixEdit.nothing with name := some (← args.string "newMatrixName") }

/-- The commands that replace a vector. -/
def vectors : List (Editor Scene.Vector) :=
  [updateVector, renameVector, setVectorRenderMode, setVectorDisplayText, showVectorDisplayText,
    normalizeVector]

/-- The commands that replace a matrix. -/
def matrices : List (Editor Scene.Matrix) := [updateMatrix, renameMatrix]

theorem vector_ok {view : View} {args : Args} {key : String} {v : Scene.Vector}
    (h : view.vector args key = .ok v) :
    ∃ name, args.string key = .ok name ∧ view.scene.vectors.get? name = some v := by
  obtain ⟨name, hname, h⟩ := ok_of_bind h
  exact ⟨name, hname, require_ok h⟩

theorem matrix_ok {view : View} {args : Args} {key : String} {m : Scene.Matrix}
    (h : view.matrix args key = .ok m) :
    ∃ name, args.string key = .ok name ∧ view.scene.matrices.get? name = some m := by
  obtain ⟨name, hname, h⟩ := ok_of_bind h
  exact ⟨name, hname, require_ok h⟩

theorem finish_ok {w w' : Workspace} {changed : Except Scene.Error Scene.State} {v result : Value}
    (h : w.finish changed v = (.ok result, w')) :
    ∃ s, changed = .ok s ∧ w'.scene = s.requestMenu := by
  cases changed with
  | error fault => cases h
  | ok s =>
    cases h
    exact ⟨s, rfl, rfl⟩

theorem updateVector_puts : updateVector.Puts State.vectors := by
  intro view args plan hplan
  have hplan : Builtin.updateVector.plan view args = .ok plan := hplan
  rw [updateVector_plan] at hplan
  obtain ⟨v, hv, hplan⟩ := ok_of_bind hplan
  obtain ⟨edit, hedit, hplan⟩ := ok_of_bind hplan
  cases hplan
  obtain ⟨name, hname, hget⟩ := vector_ok hv
  refine ⟨name, v, edit.apply v, _, hname, hget, ?_, rfl, fun w result w' hrun => ?_⟩
  · simp only [updateVector, ofVectorEdit, hedit]
    rfl
  · rw [VectorEdit.run] at hrun
    obtain ⟨s, hs, hscene⟩ := finish_ok hrun
    obtain ⟨hgranted, rfl⟩ := State.replaceVector_ok hs
    exact ⟨hgranted, congrArg State.vectors hscene⟩

theorem normalizeVector_puts : normalizeVector.Puts State.vectors := by
  intro view args plan hplan
  obtain ⟨v, hv, hplan⟩ := ok_of_bind hplan
  cases hplan
  obtain ⟨name, hname, hget⟩ := vector_ok hv
  refine ⟨name, v, normalized v, _, hname, hget, rfl, rfl, fun w result w' hrun => ?_⟩
  -- the options of a vector give its color, so that none is drawn
  simp only [Change.run] at hrun
  split at hrun
  · rename_i s hs
    cases hrun
    have hs : w.scene.replaceVector v.name (normalized v) = .ok s := hs
    obtain ⟨hgranted, rfl⟩ := State.replaceVector_ok hs
    exact ⟨hgranted, rfl⟩
  · cases hrun

theorem updateMatrix_puts : updateMatrix.Puts State.matrices := by
  intro view args plan hplan
  have hplan : Builtin.updateMatrix.plan view args = .ok plan := hplan
  rw [updateMatrix_plan] at hplan
  obtain ⟨m, hm, hplan⟩ := ok_of_bind hplan
  obtain ⟨edit, hedit, hplan⟩ := ok_of_bind hplan
  cases hplan
  obtain ⟨name, hname, hget⟩ := matrix_ok hm
  refine ⟨name, m, edit.apply m, _, hname, hget, ?_, rfl, fun w result w' hrun => ?_⟩
  · simp only [updateMatrix, ofMatrixEdit, hedit]
    rfl
  · rw [MatrixEdit.run] at hrun
    obtain ⟨s, hs, hscene⟩ := finish_ok hrun
    obtain ⟨hgranted, rfl⟩ := State.replaceMatrix_ok hs
    exact ⟨hgranted, congrArg State.matrices hscene⟩

theorem get?_given (entries : List (String × Value)) (hnodup : (entries.map (·.1)).Nodup)
    (name : String) :
    (Args.ofList entries).present.get? name = (entries.lookup name).filter (!·.isAbsent) := by
  rw [Args.get?_present, Args.get?_ofList hnodup]

/-- The edit that is read from arguments which give a name, a mode, a label or whether to show it,
and nothing else. -/
theorem read_given {args : Args} (h : ∀ key ∈ ["originX", "originY", "originZ", "endX", "endY",
      "endZ", "color", "visible", "scaleVector"], args.get? key = none) :
    VectorEdit.read args = do
      let name ← args.string? "newVectorName"
      let mode ← args.mode? "renderMode"
      let label ← args.string? "textToRender"
      let labelled ← args.bool? "renderText"
      return { VectorEdit.nothing with name, mode, label, labelled } := by
  simp only [List.forall_mem_cons] at h
  obtain ⟨hox, hoy, hoz, hex, hey, hez, hcolor, hvisible, hscale, -⟩ := h
  have hcolor : args.color? = .ok none := by
    rw [Args.color?, Args.int?, Args.typed_of_none hcolor]
    rfl
  simp only [VectorEdit.read, Args.float?, Args.bool?, Args.point?, Args.typed_of_none hox,
    Args.typed_of_none hoy, Args.typed_of_none hoz, Args.typed_of_none hex,
    Args.typed_of_none hey, Args.typed_of_none hez, hcolor, Args.typed_of_none hvisible,
    Args.typed_of_none hscale]
  rfl

/-- A command that hands over to `updateVector` the key and what else its arguments say. -/
theorem handsOver_updateVector {command : Builtin} {key : String} {β : Type}
    (given : Args → Except Error β) (rest : β → List (String × Value))
    {read : Args → Except Error VectorEdit}
    (hplan : ∀ view args, command.plan view args = do
      let name ← args.string key
      let a ← given args
      return .delegate ⟨"updateVector", .ofList (("vector", .string name) :: rest a)⟩)
    (hrest : ∀ a, ("vector" :: (rest a).map (·.1)).Nodup)
    (hread : ∀ ⦃args a targs⦄, given args = .ok a →
      (∀ name ≠ "vector", Args.get? targs name =
        ((rest a).lookup name).filter (!·.isAbsent)) → VectorEdit.read targs = read args) :
    (ofVectorEdit command key read).HandsOver updateVector := by
  intro view args plan h
  have h : command.plan view args = .ok plan := h
  rw [hplan] at h
  obtain ⟨name, hname, h⟩ := ok_of_bind h
  obtain ⟨a, ha, h⟩ := ok_of_bind h
  cases h
  have hgiven := get?_given (("vector", .string name) :: rest a) (hrest a)
  refine ⟨_, rfl, ?_, fun v => ?_⟩
  · exact (Args.string_of_get? (hgiven _)).trans hname.symm
  · simp only [updateVector, ofVectorEdit]
    rw [hread ha fun name hne => ?_]
    rw [hgiven, Args.lookup_cons_eq, if_neg hne]

theorem string?_of_string {args : Args} {key text : String} (h : args.string key = .ok text) :
    args.string? key = .ok (some text) := by
  unfold Args.string Args.needed at h
  split at h
  · rename_i hread
    cases h
    exact hread
  · cases h
  · cases h

theorem mode?_of_none {args : Args} {key : String} (h : args.get? key = none) :
    args.mode? key = .ok none := by
  rw [Args.mode?, Args.string?, Args.typed_of_none h]
  rfl

theorem renameVector_handsOver : renameVector.HandsOver updateVector := by
  refine handsOver_updateVector ((·.string "newVectorName"))
    (fun name => [("newVectorName", .string name)]) (fun _ _ => rfl) (by simp) ?_
  intro args name targs hname hgiven
  rw [read_given (by simp [hgiven, Args.lookup_cons_eq]), hname,
    Args.string?_of_get? (hgiven _ (by decide)), mode?_of_none (hgiven _ (by decide)), Args.string?,
    Args.typed_of_none (hgiven _ (by decide)), Args.bool?,
    Args.typed_of_none (hgiven _ (by decide))]
  rfl

theorem setVectorRenderMode_handsOver : setVectorRenderMode.HandsOver updateVector := by
  refine handsOver_updateVector ((·.string "renderMode"))
    (fun text => [("renderMode", .string text)]) (fun _ _ => rfl) (by simp) ?_
  intro args text targs htext hgiven
  -- both read the mode from the same text
  have hmode : targs.mode? "renderMode" = args.mode? "renderMode" := by
    rw [Args.mode?, Args.mode?, Args.string?_of_get? (hgiven _ (by decide)),
      string?_of_string htext]
  rw [read_given (by simp [hgiven, Args.lookup_cons_eq]), hmode, Args.string?,
    Args.typed_of_none (hgiven _ (by decide)), Args.string?,
    Args.typed_of_none (hgiven _ (by decide)), Args.bool?,
    Args.typed_of_none (hgiven _ (by decide))]
  rfl

theorem setVectorDisplayText_handsOver : setVectorDisplayText.HandsOver updateVector := by
  refine handsOver_updateVector ((·.string "textToDisplay"))
    (fun text => [("renderText", .bool true), ("textToRender", .string text)])
    (fun _ _ => rfl) (by simp) ?_
  intro args text targs htext hgiven
  rw [read_given (by simp [hgiven, Args.lookup_cons_eq]), htext,
    mode?_of_none (hgiven _ (by decide)), Args.string?, Args.typed_of_none (hgiven _ (by decide)),
    Args.string?_of_get? (hgiven _ (by decide)), Args.bool?_of_get? (hgiven _ (by decide))]
  rfl

theorem showVectorDisplayText_handsOver : showVectorDisplayText.HandsOver updateVector := by
  refine handsOver_updateVector ((·.bool "displayTextEnabled"))
    (fun labelled => [("renderText", .bool labelled)]) (fun _ _ => rfl) (by simp) ?_
  intro args labelled targs hlabelled hgiven
  rw [read_given (by simp [hgiven, Args.lookup_cons_eq]), hlabelled,
    mode?_of_none (hgiven _ (by decide)), Args.string?, Args.typed_of_none (hgiven _ (by decide)),
    Args.string?, Args.typed_of_none (hgiven _ (by decide)),
    Args.bool?_of_get? (hgiven _ (by decide))]
  rfl

theorem renameMatrix_handsOver : renameMatrix.HandsOver updateMatrix := by
  intro view args plan hplan
  obtain ⟨key, hkey, hplan⟩ := ok_of_bind hplan
  obtain ⟨name, hname, hplan⟩ := ok_of_bind hplan
  cases hplan
  have hgiven := get?_given [("oldMatrixName", .string key), ("newMatrixName", .string name)]
    (by simp)
  refine ⟨_, rfl, ?_, fun m => ?_⟩
  · exact (Args.string_of_get? (hgiven _)).trans hkey.symm
  · simp only [renameMatrix, updateMatrix, ofMatrixEdit, hname, MatrixEdit.read]
    rw [Args.string?_of_get? (hgiven "newMatrixName"), Args.string?,
      Args.typed_of_none (hgiven "textToRender"), Args.bool?,
      Args.typed_of_none (hgiven "visible"), Args.bool?,
      Args.typed_of_none (hgiven "renderText"), Args.transform?,
      Args.typed_of_none (hgiven "matrix")]
    rfl

theorem vectors_inPlace : ∀ x ∈ vectors, x.InPlace State.vectors := by
  have hruns : ∀ {x : Editor Scene.Vector}, x.HandsOver updateVector →
      x.Puts State.vectors ∨ ∃ t : Editor Scene.Vector, x.HandsOver t ∧ t.Puts State.vectors ∧
        Table.builtin.get? t.command.definition.name = some t.command.command :=
    fun h => .inr ⟨updateVector, h, updateVector_puts, rfl⟩
  simp only [vectors, List.forall_mem_cons]
  refine ⟨⟨rfl, ?_, .inl updateVector_puts⟩, ⟨rfl, ?_, hruns renameVector_handsOver⟩,
    ⟨rfl, ?_, hruns setVectorRenderMode_handsOver⟩,
    ⟨rfl, ?_, hruns setVectorDisplayText_handsOver⟩,
    ⟨rfl, ?_, hruns showVectorDisplayText_handsOver⟩,
    ⟨rfl, fun _ _ => rfl, .inl normalizeVector_puts⟩, by simp⟩
  all_goals
    intro args v
  · simp only [updateVector, ofVectorEdit, VectorEdit.read, Args.string?, Args.float?,
      Args.mode?, Args.color?, Args.int?, Args.bool?, Args.point?, Args.typed, Args.get?_present]
  · simp only [renameVector, ofVectorEdit, Args.string, Args.string?, Args.typed,
      Args.get?_present]
  · simp only [setVectorRenderMode, ofVectorEdit, Args.mode?, Args.string?, Args.typed,
      Args.get?_present]
  · simp only [setVectorDisplayText, ofVectorEdit, Args.string, Args.string?, Args.typed,
      Args.get?_present]
  · simp only [showVectorDisplayText, ofVectorEdit, Args.bool, Args.bool?, Args.typed,
      Args.get?_present]

theorem matrices_inPlace : ∀ x ∈ matrices, x.InPlace State.matrices := by
  simp only [matrices, List.forall_mem_cons]
  refine ⟨⟨rfl, ?_, .inl updateMatrix_puts⟩,
    ⟨rfl, ?_, .inr ⟨updateMatrix, renameMatrix_handsOver, updateMatrix_puts, rfl⟩⟩, by simp⟩
  all_goals
    intro args m
  · simp only [updateMatrix, ofMatrixEdit, MatrixEdit.read, Args.string?, Args.bool?,
      Args.transform?, Args.typed, Args.get?_present]
  · simp only [renameMatrix, ofMatrixEdit, Args.string, Args.string?, Args.typed,
      Args.get?_present]

end Editor

/-! ### A call -/

/-- **Commands that change an entity in place.** Where a call of one of the eight commands succeeds,
and its key leads to an entity, what the command makes of the entity is in the place that the name
of the entity leads to, and every other place of the registry holds the same entity under the same
name. That place is the one that the key led to just if the name stands for itself, as every name
does that is no shortcut. -/
theorem dispatch_revises {e e' : Engine} (he : e.Reachable) {c : Call} {depth : Nat}
    {surface : Bool} {result : Value}
    (hrun : dispatch Table.builtin depth surface c e = (.ok result, e'))
    (hok : ¬recovers Table.builtin depth c e) :
    (∀ x ∈ Editor.vectors, c.name = x.command.definition.name →
      x.Revises c.args e.scene.vectors e'.scene.vectors) ∧
    (∀ x ∈ Editor.matrices, c.name = x.command.definition.name →
      x.Revises c.args e.scene.matrices e'.scene.matrices) := by
  obtain ⟨vs, -, hvs, -⟩ := he.sane.vectors.rosters
  obtain ⟨ms, -, hms, -⟩ := he.sane.matrices.rosters
  refine ⟨fun x hx hc => ?_, fun x hx hc => ?_⟩
  · exact (Editor.vectors_inPlace x hx).revises hvs hc hrun hok
  · exact (Editor.matrices_inPlace x hx).revises hms hc hrun hok

section Rename

/-- An engine with two vectors. -/
def pairEngine (first second : String) : Engine :=
  let create (name : String) : Call :=
    ⟨"createVector2", .ofList [("name", .string name), ("endPosition", .ofPoint ⟨0, 1, 0⟩)]⟩
  let e : Engine := { draws := ⟨fun _ => 0, 0⟩, log := { files := {} } }
  ((e.call Table.builtin false (create first)).2.call Table.builtin false (create second)).2

/-- The call that gives the last vector the name `c`. -/
def renameLast : Call := ⟨"renameVector", .ofList
  [("oldVectorName", .string "$"), ("newVectorName", .string "c")]⟩

theorem pairEngine_reachable (first second : String) : (pairEngine first second).Reachable :=
  .call false _ (.call false _ (.start ⟨fun _ => 0, 0⟩ {}))

/-- A call that recovers would leave the names as they are. -/
theorem renameLast_succeeds {e : Engine} (he : e.Reachable)
    (hnames : (dispatch Table.builtin 2 true renameLast e).2.scene.vectors.names ≠
      e.scene.vectors.names) : ¬recovers Table.builtin 2 renameLast e := by
  intro h
  obtain ⟨inner, fault, -, -, -, hspares⟩ := Builtin.composite_spares (b := Builtin.renameVector)
    (by simp [Builtin.composites]) he.sane (c := renameLast) rfl h
  exact hnames (congrArg (·.vectors.names) hspares.workspace.scene)

/-- The last of two vectors is renamed in its place. -/
theorem dispatch_revises_renameLast :
    let e := pairEngine "a" "b"
    let x := dispatch Table.builtin 2 true renameLast e
    ∃ v new, e.scene.vectors.Leads "$" 1 v ∧
      Editor.renameVector.revise renameLast.args v = .ok new ∧
      e.scene.vectors.ChangedAt 1 new x.2.scene.vectors ∧ x.2.scene.vectors.names = ["a", "c"] := by
  intro e x
  have hcomputed : (e.scene.vectors.names = ["a", "b"] ∧
      e.scene.vectors.entities[1]?.map (·.name) = some "b" ∧
      e.scene.vectors.resolve "$" = some "b" ∧ e.scene.vectors.resolve "b" = some "b") ∧
      x.1.isOk ∧ x.2.scene.vectors.names = ["a", "c"] := by decide
  obtain ⟨⟨hnames, hlast, hkey, hself⟩, hok, hnames'⟩ := hcomputed
  obtain ⟨v, hv, hname⟩ := Option.map_eq_some_iff.1 hlast
  have hleads : e.scene.vectors.Leads "$" 1 v := ⟨"b", hkey, by rw [hnames]; rfl, hv⟩
  have hnot : ¬recovers Table.builtin 2 renameLast e :=
    renameLast_succeeds (pairEngine_reachable _ _) (by rw [hnames', hnames]; decide)
  cases hx : x with
  | mk value e' =>
    rw [hx] at hok hnames'
    cases value with
    | error fault => cases hok
    | ok value =>
      obtain ⟨hvectors, -⟩ := dispatch_revises (pairEngine_reachable "a" "b") hx hnot
      obtain ⟨new, j, old, hnew, hj, hchanged, hplace⟩ := hvectors Editor.renameVector
        (by simp [Editor.vectors]) rfl rfl hleads
      have hname : Entity.name v = "b" := hname
      obtain rfl := hplace.2 (by rw [hname]; exact hself)
      exact ⟨v, new, hleads, hnew, hchanged, hnames'⟩

/-- A vector whose name is a shortcut for another one: the other one is replaced by the renamed
vector, which is still in its place. -/
theorem renameLast_elsewhere :
    let e := pairEngine "a" "$-1"
    let x := dispatch Table.builtin 2 true renameLast e
    e.Reachable ∧ x.1.isOk ∧ ¬recovers Table.builtin 2 renameLast e ∧
      (∃ v, e.scene.vectors.Leads "$" 1 v) ∧ e.scene.vectors.names = ["a", "$-1"] ∧
      x.2.scene.vectors.names = ["c", "$-1"] ∧
      ∀ new, ¬e.scene.vectors.ChangedAt 1 new x.2.scene.vectors := by
  intro e x
  have hcomputed : (e.scene.vectors.names = ["a", "$-1"] ∧
      e.scene.vectors.entities[1]?.isSome ∧ e.scene.vectors.resolve "$" = some "$-1") ∧
      x.1.isOk ∧ x.2.scene.vectors.names = ["c", "$-1"] := by decide
  obtain ⟨⟨hnames, hlast, hkey⟩, hok, hnames'⟩ := hcomputed
  obtain ⟨v, hv⟩ := Option.isSome_iff_exists.1 hlast
  refine ⟨pairEngine_reachable _ _, hok, ?_, ⟨v, "$-1", hkey, by rw [hnames]; rfl, hv⟩, hnames,
    hnames', fun new hchanged => ?_⟩
  · exact renameLast_succeeds (pairEngine_reachable _ _) (by rw [hnames', hnames]; decide)
  · -- the other place holds the new name
    have hother := (hchanged.others 0 (by decide)).1
    rw [hnames, hnames'] at hother
    simp at hother

end Rename

end VectorScene.Command
