import VectorScene.Proofs.Command.InPlace
import VectorScene.Proofs.Command.Tidy

/-!
# Copies and edits that cannot fail

Commands that copy an entity or change one in place build it again, from its name, its points or
rows, and options that are read off it. In a tidy scene nothing gets lost that way. And of the
commands that hand an entity over to another command for that, those that take no color and no
render mode as an argument cannot fail once their arguments are checked: what they hand over passes
every check of the other one, and a name that is taken or not found is no failure.

## Main definitions

* `Editor.Reads`: a command that reads its arguments without fail
* `Editor.Seeks`: a command that fails only to find the entity

## Main results

* `Call.comes_through`: a call that fails at most on a name
* `Editor.HandsOver.comes_through`: commands that hand over an edit
* `duplicateVector_comes_through`: copies
* `entities_rebuilt`: what can be said of every scene that calls make
-/

namespace VectorScene.Command

open VectorScene.Geometry Scene

/-! ### What is read without fail -/

theorem bind_ok {ε α β : Type} {x : Except ε α} {a : α} (hx : x = .ok a) {f : α → Except ε β}
    (hf : ∃ b, f a = .ok b) : ∃ b, x >>= f = .ok b := by
  rw [hx]
  exact hf

namespace Args.Fit

variable {args : Args} {parameters : List Parameter} {name : String}

/-- An argument that has to be given can be read as its type. -/
theorem needed_ok (h : args.Fit parameters) {α : Type} {read : Value → Option α} {type : ArgType}
    (hp : required name type ∈ parameters)
    (hread : ∀ v, type.accepts v = true → (read v).isSome) :
    ∃ a, Args.needed name (args.typed type read name) = .ok a := by
  obtain ⟨v, hv⟩ := h.given hp
  have haccepts : type.accepts v = true := by
    have hfault := h _ hp
    have hget : args.get? (required name type).name = some v := hv
    by_contra hrefused
    have hrefused : ¬(required name type).type.accepts v = true := hrefused
    simp only [fault?, hget, if_neg hrefused] at hfault
    cases hfault
  obtain ⟨a, ha⟩ := Option.isSome_iff_exists.1 (hread v haccepts)
  exact ⟨a, by rw [typed_of_get? hv ha, Args.needed]⟩

theorem string_ok (h : args.Fit parameters) (hp : required name .string ∈ parameters) :
    ∃ text, args.string name = .ok text := h.needed_ok hp fun _ hv => hv

theorem bool_ok (h : args.Fit parameters) (hp : required name .bool ∈ parameters) :
    ∃ b, args.bool name = .ok b := h.needed_ok hp fun _ hv => hv

end Args.Fit

/-- A vector that an argument names is not found, or that is all. -/
theorem View.vector_error {view : View} {args : Args} {key text : String} {fault : Error}
    (hkey : args.string key = .ok text) (h : view.vector args key = .error fault) :
    fault.lookup?.isSome := by
  rw [View.vector, hkey] at h
  exact require_error h

/-- So with matrices. -/
theorem View.matrix_error {view : View} {args : Args} {key text : String} {fault : Error}
    (hkey : args.string key = .ok text) (h : view.matrix args key = .error fault) :
    fault.lookup?.isSome := by
  rw [View.matrix, hkey] at h
  exact require_error h

/-! ### Calls that come through -/

section ComesThrough

variable {c : Call} {e : Engine} {b : Builtin}

/-- **A call comes through** if its arguments pass the check, and if neither planning nor carrying
out the plan fails on more than a name. -/
theorem Call.comes_through (hb : b ∈ Builtin.all) (hname : b.definition.name = c.name)
    (hfit : c.args.Fit b.definition.parameters)
    (herror : ∀ fault, b.plan e.builtinView c.args.present = .error fault →
      fault.lookup?.isSome)
    (hplan : ∀ plan, c.Settles e b plan → Settled (plan.enact e).1) (surface : Bool) :
    ∃ v, (e.call Table.builtin surface c).1 = .ok v := by
  cases hp : b.plan e.builtinView c.args.present with
  | ok plan =>
    have hsettles : c.Settles e b plan := ⟨hb, hname, hfit, hp⟩
    rw [(hsettles.outer surface).1]
    exact conclude_settled _ _ _ _ (hplan plan hsettles)
  | error fault =>
    have hget := Table.builtin_get?_self hb
    rw [hname] at hget
    rw [e.call_eq_dispatch, dispatch_builtin hget]
    simp only [hfit.validate, Builtin.settle, hp]
    exact conclude_settled _ _ _ _ (.error (herror fault hp))

/-- A change fails on a name only. -/
theorem Plan.settled_change (he : e.Sane) (change : Change) :
    Settled ((Plan.change change).enact e).1 := by
  intro fault h
  have hfitting : (Plan.change change).Fitting := trivial
  have hperform : ((Plan.change change).perform 0 e).1 = .error fault := h
  exact hfitting.perform_error nofun he hperform

/-- A command that is run settles if its call comes through. -/
theorem Plan.settled_delegate {k : Call}
    (h : ∃ v, (e.call Table.builtin false k).1 = .ok v) :
    Settled ((Plan.delegate k).enact e).1 := by
  obtain ⟨v, hv⟩ := h
  rw [Plan.enact_delegate, hv]
  exact .ok v

/-- A call comes through whose command settles on a change. -/
theorem Builtin.change_comes_through (he : e.Sane) (hb : b ∈ Builtin.all) {args : Args}
    (hfit : args.Fit b.definition.parameters) {change : Change}
    (hplan : b.plan e.builtinView args.present = .ok (.change change)) (surface : Bool) :
    ∃ v, (e.call Table.builtin surface ⟨b.definition.name, args⟩).1 = .ok v := by
  refine Call.comes_through hb rfl hfit (fun fault h => ?_) (fun plan hsettles => ?_) surface
  · rw [hplan] at h
    cases h
  · obtain rfl : plan = .change change := Except.ok.inj (hsettles.plan.symm.trans hplan)
    exact Plan.settled_change he change

end ComesThrough

/-! ### Edits -/

namespace Editor

variable {α : Type} [Entity α]

/-- The command reads from its arguments which entity it is to change and how, and comes to a plan,
without fail. -/
def Reads (x : Editor α) : Prop :=
  ∀ args, args.Fit x.command.definition.parameters →
    (∃ key, args.string x.key = .ok key) ∧ (∀ e, ∃ new, x.revise args e = .ok new) ∧
      ∀ view, ∃ plan, x.command.plan view args = .ok plan

/-- If it can be read which entity is to change and how, the command fails only to find it. -/
def Seeks (t : Editor α) : Prop :=
  ∀ ⦃view args key fault⦄, args.string t.key = .ok key → (∀ e, ∃ new, t.revise args e = .ok new) →
    t.command.plan view args = .error fault → fault.lookup?.isSome

theorem updateVector_seeks : updateVector.Seeks := by
  intro view args key fault hkey hrevise h
  have h : Builtin.updateVector.plan view args = .error fault := h
  rw [updateVector_plan] at h
  cases hv : view.vector args "vector" with
  | error cause =>
    rw [hv] at h
    cases h
    exact View.vector_error hkey hv
  | ok v =>
    obtain ⟨new, hnew⟩ := hrevise v
    obtain ⟨edit, hedit, -⟩ := ok_of_bind hnew
    rw [hv, hedit] at h
    cases h

theorem updateMatrix_seeks : updateMatrix.Seeks := by
  intro view args key fault hkey hrevise h
  have h : Builtin.updateMatrix.plan view args = .error fault := h
  rw [updateMatrix_plan] at h
  cases hm : view.matrix args "oldMatrixName" with
  | error cause =>
    rw [hm] at h
    cases h
    exact View.matrix_error hkey hm
  | ok m =>
    obtain ⟨new, hnew⟩ := hrevise m
    obtain ⟨edit, hedit, -⟩ := ok_of_bind hnew
    rw [hm, hedit] at h
    cases h

theorem reads_of_edit {command : Builtin} {key : String} {read : Args → Except Error VectorEdit}
    (h : ∀ args, args.Fit command.definition.parameters →
      (∃ name, args.string key = .ok name) ∧ (∃ edit, read args = .ok edit) ∧
        ∀ view, ∃ plan, command.plan view args = .ok plan) :
    (ofVectorEdit command key read).Reads := by
  intro args hfit
  obtain ⟨hkey, ⟨edit, hedit⟩, hplan⟩ := h args hfit
  exact ⟨hkey, fun v => bind_ok hedit ⟨_, rfl⟩, hplan⟩

theorem renameVector_reads : renameVector.Reads := by
  refine reads_of_edit fun args h => ?_
  obtain ⟨key, hkey⟩ : ∃ text, args.string "oldVectorName" = .ok text := h.string_ok (by decide)
  obtain ⟨name, hname⟩ : ∃ text, args.string "newVectorName" = .ok text := h.string_ok (by decide)
  exact ⟨⟨key, hkey⟩, bind_ok hname ⟨_, rfl⟩, fun _ => bind_ok hkey (bind_ok hname ⟨_, rfl⟩)⟩

theorem setVectorDisplayText_reads : setVectorDisplayText.Reads := by
  refine reads_of_edit fun args h => ?_
  obtain ⟨key, hkey⟩ : ∃ text, args.string "vector" = .ok text := h.string_ok (by decide)
  obtain ⟨label, hlabel⟩ : ∃ text, args.string "textToDisplay" = .ok text :=
    h.string_ok (by decide)
  exact ⟨⟨key, hkey⟩, bind_ok hlabel ⟨_, rfl⟩, fun _ => bind_ok hkey (bind_ok hlabel ⟨_, rfl⟩)⟩

theorem showVectorDisplayText_reads : showVectorDisplayText.Reads := by
  refine reads_of_edit fun args h => ?_
  obtain ⟨key, hkey⟩ : ∃ text, args.string "vector" = .ok text := h.string_ok (by decide)
  obtain ⟨labelled, hlabelled⟩ : ∃ b, args.bool "displayTextEnabled" = .ok b :=
    h.bool_ok (by decide)
  exact ⟨⟨key, hkey⟩, bind_ok hlabelled ⟨_, rfl⟩,
    fun _ => bind_ok hkey (bind_ok hlabelled ⟨_, rfl⟩)⟩

theorem renameMatrix_reads : renameMatrix.Reads := by
  intro args h
  obtain ⟨key, hkey⟩ : ∃ text, args.string "oldMatrixName" = .ok text := h.string_ok (by decide)
  obtain ⟨name, hname⟩ : ∃ text, args.string "newMatrixName" = .ok text := h.string_ok (by decide)
  refine ⟨⟨key, hkey⟩, fun m => ?_, fun _ => bind_ok hkey (bind_ok hname ⟨_, rfl⟩)⟩
  simp only [renameMatrix, ofMatrixEdit, hname]
  exact ⟨_, rfl⟩

/-- **A command that hands over an edit** which it reads without fail comes through, if the command
that it runs fails only to find the entity. -/
theorem HandsOver.comes_through {x t : Editor α} {registry : Scene.State → Registry α}
    (hhands : x.HandsOver t) (hreads : x.Reads) (hputs : t.Puts registry) (hseeks : t.Seeks)
    (hx : x.command ∈ Builtin.all) (hlist : x.command.definition.name ≠ "runJsonCommandList")
    (ht : t.command ∈ Builtin.targets) {e : Engine} (he : e.Sane) {c : Call}
    (hname : x.command.definition.name = c.name)
    (hfit : c.args.Fit x.command.definition.parameters) (surface : Bool) :
    ∃ v, (e.call Table.builtin surface c).1 = .ok v := by
  obtain ⟨⟨key, hkey⟩, hrevise, hplan⟩ := hreads _ hfit.present
  refine Call.comes_through hx hname hfit (fun fault h => ?_) (fun plan hsettles => ?_) surface
  · obtain ⟨plan, hok⟩ := hplan e.builtinView
    rw [hok] at h
    cases h
  · obtain ⟨targs, rfl, htkey, htrevise⟩ := hhands hsettles.plan
    -- what is handed over passes the check
    have hsound := Builtin.all_sound hx hlist e.builtinView c.args.present hfit.present
    rw [hsettles.plan] at hsound
    obtain ⟨t', ht', htname, htfit⟩ := hsound
    obtain rfl : t.command = t' := Builtin.eq_of_name (Builtin.targets_subset _ ht)
      (Builtin.targets_subset _ ht') htname
    refine Plan.settled_delegate ?_
    refine Call.comes_through (Builtin.targets_subset _ ht) rfl htfit (fun fault h => ?_)
      (fun plan hinner => ?_) false
    · refine hseeks (htkey.trans hkey) (fun v => ?_) h
      rw [htrevise]
      exact hrevise v
    · obtain ⟨-, -, -, change, -, -, -, rfl, -⟩ := hputs hinner.plan
      exact Plan.settled_change he change

end Editor

/-! ### Copies -/

/-- **A copy** comes through in a tidy scene: its color has 24 bits. -/
theorem duplicateVector_comes_through {e : Engine} (he : e.workspace.Tidy) {c : Call}
    (hname : Builtin.duplicateVector.definition.name = c.name)
    (hfit : c.args.Fit Builtin.duplicateVector.definition.parameters) (surface : Bool) :
    ∃ v, (e.call Table.builtin surface c).1 = .ok v := by
  have hsane : e.Sane := he.alike.scene.mono fun _ _ => trivial
  have hmem : Builtin.duplicateVector ∈ Builtin.all := by
    simp [Builtin.all, Builtin.entitiesCommands]
  obtain ⟨key, hkey⟩ : ∃ text, c.args.present.string "vector" = .ok text :=
    hfit.present.string_ok (by decide)
  obtain ⟨name, hcopy⟩ : ∃ text, c.args.present.string "name" = .ok text :=
    hfit.present.string_ok (by decide)
  refine Call.comes_through hmem hname hfit (fun fault h => ?_) (fun plan hsettles => ?_) surface
  · rw [duplicateVector_plan] at h
    cases hv : e.builtinView.vector c.args.present "vector" with
    | error cause =>
      rw [hv] at h
      cases h
      exact View.vector_error hkey hv
    | ok v =>
      rw [hv, hcopy] at h
      cases h
  · have hplan := hsettles.plan
    rw [duplicateVector_plan] at hplan
    obtain ⟨v, hv, hplan⟩ := ok_of_bind hplan
    obtain ⟨copy, -, hplan⟩ := ok_of_bind hplan
    cases hplan
    obtain ⟨found, -, hget⟩ := Editor.vector_ok hv
    have hcolor : v.color ≤ Color.limit := he.alike.scene.vectors.of_get? hget
    have hcreate : Builtin.createVector ∈ Builtin.all := by
      simp [Builtin.all, Builtin.entitiesCommands]
    exact Plan.settled_delegate (Builtin.change_comes_through hsane hcreate
      (Args.validate_fit (copyArgs_validate copy v)) (createVector_copy copy v hcolor _) false)

/-! ### Scenes that calls make -/

/-- The commands that copy and edit entities and take neither a color nor a render mode for that. -/
def Builtin.unfailing : List Builtin :=
  [duplicateVector, renameVector, setVectorDisplayText, showVectorDisplayText, renameMatrix]

theorem unfailing_comes_through {e : Engine} (he : e.workspace.Tidy) {b : Builtin}
    (hb : b ∈ Builtin.unfailing) {args : Args} (hfit : args.Fit b.definition.parameters)
    (surface : Bool) :
    ∃ v, (e.call Table.builtin surface ⟨b.definition.name, args⟩).1 = .ok v := by
  have hsane : e.Sane := he.alike.scene.mono fun _ _ => trivial
  have hvector : ∀ {x : Editor Scene.Vector}, x.HandsOver Editor.updateVector → x.Reads →
      x.command ∈ Builtin.all → x.command.definition.name ≠ "runJsonCommandList" →
      args.Fit x.command.definition.parameters →
      ∃ v, (e.call Table.builtin surface ⟨x.command.definition.name, args⟩).1 = .ok v :=
    fun hhands hreads hx hlist hfit =>
      hhands.comes_through hreads Editor.updateVector_puts Editor.updateVector_seeks hx hlist
        (by simp [Builtin.targets, Editor.updateVector, Editor.ofVectorEdit]) hsane rfl hfit surface
  simp only [Builtin.unfailing, List.mem_cons, List.not_mem_nil, or_false] at hb
  rcases hb with rfl | rfl | rfl | rfl | rfl
  · exact duplicateVector_comes_through he rfl hfit surface
  · exact hvector Editor.renameVector_handsOver Editor.renameVector_reads
      (by simp [Builtin.all, Builtin.editingCommands, Editor.renameVector, Editor.ofVectorEdit])
      (by decide) hfit
  · exact hvector Editor.setVectorDisplayText_handsOver Editor.setVectorDisplayText_reads
      (by simp [Builtin.all, Builtin.editingCommands, Editor.setVectorDisplayText,
        Editor.ofVectorEdit]) (by decide) hfit
  · exact hvector Editor.showVectorDisplayText_handsOver Editor.showVectorDisplayText_reads
      (by simp [Builtin.all, Builtin.editingCommands, Editor.showVectorDisplayText,
        Editor.ofVectorEdit]) (by decide) hfit
  · exact Editor.renameMatrix_handsOver.comes_through Editor.renameMatrix_reads
      Editor.updateMatrix_puts Editor.updateMatrix_seeks
      (by simp [Builtin.all, Builtin.editingCommands, Editor.renameMatrix, Editor.ofMatrixEdit])
      (by decide) (by simp [Builtin.targets, Editor.updateMatrix, Editor.ofMatrixEdit]) hsane rfl
      hfit surface

/-- **What can be said of every scene that calls make** in a new engine, if only colors of 24 bits
are drawn, whatever comes of each call. The colors of the vectors have 24 bits, and labels are empty
only where names are. So vectors and matrices that are built again from names, points or rows, and
options read off them are the same but for handles: off the stage, and matrices with their arrows
on it. And the commands that copy and edit entities without a color or a render mode as an argument
give no error if their arguments pass the check. -/
theorem entities_rebuilt {draws : Draws} (hdraws : Drawable (fun c => c ≤ 0xffffff) draws)
    (files : Files) (calls : List (Bool × Call)) :
    let e := (Engine.fresh draws files).callAll calls
    (∀ v ∈ e.scene.vectors.entities, v.color ≤ 0xffffff ∧ (v.label = "" → v.name = "") ∧
      ∀ draws', Scene.Vector.draw v.name v.start v.tip v.options draws' = (v.bare, draws')) ∧
    (∀ m ∈ e.scene.matrices.entities, (m.label = "" → m.name = "") ∧
      Scene.Matrix.build m.name m.transform m.options = m.bare ∧
      ∀ s, (Entity.enter (Scene.Matrix.build m.name m.transform m.options) s).1.detached =
        m.detached) ∧
    ∀ b ∈ Builtin.unfailing, ∀ args checked, args.validate b.definition.parameters = .ok checked →
      ∀ surface, ∃ v, (e.call Table.builtin surface ⟨b.definition.name, args⟩).1 = .ok v := by
  intro e
  have hfresh : (Engine.fresh draws files).workspace.Tidy :=
    ⟨⟨.empty _, rfl⟩, hdraws, .empty⟩
  have he : e.workspace.Tidy := Engine.callAll_tidy calls _ hfresh
  obtain ⟨vs, -, hvs, -, -, hcolors, -⟩ := he.alike.scene.vectors.rosters
  obtain ⟨ms, -, hms, -, -, hposed, -⟩ := he.alike.scene.matrices.rosters
  have hscene : e.workspace.scene = e.scene := rfl
  rw [hscene] at hvs hms
  refine ⟨fun v hv => ?_, fun m hm => ?_, fun b hb args checked hchecked surface => ?_⟩
  · have hcaptioned := he.captioned.vectors.entities v hv
    rw [hvs.entities_eq] at hv
    exact ⟨hcolors v hv, hcaptioned, Scene.Vector.draw_options hcaptioned⟩
  · have hcaptioned := he.captioned.matrices.entities m hm
    rw [hms.entities_eq] at hm
    exact ⟨hcaptioned, Scene.Matrix.build_options hcaptioned,
      Scene.Matrix.enter_build_options hcaptioned (hposed m hm)⟩
  · exact unfailing_comes_through he hb (Args.validate_fit hchecked) surface

/-- A vector whose label is taken away shows its name, and can be copied. -/
theorem entities_rebuilt_unlabelled :
    let e := (Engine.fresh ⟨fun _ => 0.5, 0⟩ {}).callAll
      [(false, ⟨"createVector2", .ofList [("name", .string "a"),
          ("endPosition", .list [.int 1, .int 0, .int 0])]⟩),
        (true, ⟨"setVectorDisplayText", .ofList [("vector", .string "a"),
          ("textToDisplay", .string "")]⟩)]
    let args := Args.ofList [("name", .string "b"), ("vector", .string "a")]
    e.scene.vectors.entities.map (·.label) = ["a"] ∧
      (∀ v ∈ e.scene.vectors.entities, v.color ≤ 0xffffff ∧ (v.label = "" → v.name = "")) ∧
      ∃ v, (e.call Table.builtin false ⟨"duplicateVector", args⟩).1 = .ok v := by
  intro e args
  have hhalf : (0 : Float) ≤ 0.5 ∧ (0.5 : Float) < 1 := by decide
  have hdraws : Drawable (fun c => c ≤ 0xffffff) ⟨fun _ => 0.5, 0⟩ :=
    fun _ => Color.ofUnit_le hhalf.1 hhalf.2
  have hvalid : args.validate Builtin.duplicateVector.definition.parameters = .ok args.present :=
    rfl
  obtain ⟨hvectors, -, hcommands⟩ := entities_rebuilt hdraws {} _
  refine ⟨by decide, fun v hv => ⟨(hvectors v hv).1, (hvectors v hv).2.1⟩, ?_⟩
  exact hcommands Builtin.duplicateVector (by simp [Builtin.unfailing]) args _ hvalid false

end VectorScene.Command
