import VectorScene.Proofs.Command.Generation
import VectorScene.Proofs.Command.InPlace
import VectorScene.Proofs.Scene.Putting

/-!
# Commands that put a matrix under a name

Four commands make a matrix under a name that they are given, in the place of a matrix that has the
name already. They look for that matrix as if the name were a key, but the name is the new matrix's
own, whatever it looks like. So a name that is a shortcut may cost a matrix of another name its
place, and a second matrix of such a name may be refused; every other name does what is meant.

## Main definitions

* `Putter`: a command that puts a matrix under a name, and the transform of that matrix
* `Putter.all`: the commands
* `Putter.Clashes`: the command ends because the name is taken

## Main results

* `Change.run_putMatrix`: the change is one request
* `putMatrix_refused`, `putMatrix_granted`: what comes of the change
* `Putter.all_put`: what the commands plan
* `Putter.clashes_iff`: when the name is refused
* `dispatch_puts`: a call of one of the commands
-/

namespace VectorScene.Command

open VectorScene.Geometry Scene

/-- A matrix of a name and a transform that is not on the stage. -/
def namedMatrix (name : String) (t : Transform) : Scene.Matrix := .build name t {}

/-- **The change** asks the matrices to put the new one. -/
theorem Change.run_putMatrix (name : String) (t : Transform) (w : Workspace) :
    (Change.putMatrix name t).run w = w.finish
      (match (w.scene.matrices.answer (w.scene.matrices.putting (namedMatrix name t))
          w.scene.stage).1.fault? with
        | some fault => .error fault
        | none => .ok (w.scene.askMatrices (w.scene.matrices.putting (namedMatrix name t))))
      (.string name) := by
  have hname : Entity.name (namedMatrix name t) = name := rfl
  simp only [Change.run, Registry.putting, hname]
  split
  · rw [State.replaceMatrix_eq]
    rfl
  · rw [State.createMatrix_eq]
    rfl

section Changes

variable {e : Engine} {ms : List Scene.Matrix} {name : String}

/-- A name that hides a matrix ends the change. -/
theorem putMatrix_refused (hms : e.scene.matrices.Lists ms) (hides : e.scene.matrices.Hides name)
    (t : Transform) : ((Change.putMatrix name t).run e.workspace).1 =
      .error (.duplicateName (Entity.kind Scene.Matrix) name) := by
  have hstage : e.workspace.scene = e.scene := rfl
  have hnamed : Entity.name (namedMatrix name t) = name := rfl
  rw [Change.run_putMatrix, hstage, hms.putting_refused (hnamed ▸ hides)]
  rfl

/-- Under any other name the matrix is put. -/
theorem putMatrix_granted (hms : e.scene.matrices.Lists ms) (hides : ¬e.scene.matrices.Hides name)
    (t : Transform) :
    ((Change.putMatrix name t).run e.workspace).1 = .ok (.string name) ∧
      e.scene.matrices.Placed (namedMatrix name t)
        ((Change.putMatrix name t).run e.workspace).2.scene.matrices := by
  have hstage : e.workspace.scene = e.scene := rfl
  have hnamed : Entity.name (namedMatrix name t) = name := rfl
  obtain ⟨hgranted, hplaced⟩ := hms.putting_granted (hnamed ▸ hides) e.scene.stage
  rw [Change.run_putMatrix, hstage, hgranted]
  exact ⟨rfl, hplaced⟩

end Changes

/-! ### The commands -/

/-- A command that puts a matrix under the name that it is given. -/
structure Putter where
  command : Builtin
  /-- The transform of the matrix. -/
  transform : View → Args → Except Error Transform

namespace Putter

/-- A rotation by the angle that is given. -/
def ofRotation (command : Builtin) (rotation : Float → Transform) : Putter where
  command := command
  transform _ args := do return rotation (← args.angle "angleIsInDegrees")

/-- The frame that has a vector as its forward one. -/
def frame : Putter where
  command := Builtin.createMatrixFromForwardVector
  transform view args := do
    let v ← view.vector args "vector"
    match Frame.ofForward? v.tip (some v.start) with
    | none => throw (.argument "vector" .noForward)
    | some t => return t

/-- The commands that put a matrix. -/
def all : List Putter :=
  [ofRotation Builtin.createLeftRotationMatrix .rotationX,
    ofRotation Builtin.createUpRotationMatrix .rotationY,
    ofRotation Builtin.createForwardRotationMatrix .rotationZ, frame]

/-- The command finds the transform, and has a matrix put under the name. -/
structure Puts (x : Putter) : Prop where
  get? : Table.builtin.get? x.command.definition.name = some x.command.command
  plan : ∀ view args, x.command.plan view args = do
    let t ← x.transform view args
    let name ← args.string "name"
    return .change (.putMatrix name t)
  /-- Arguments that are absent make no difference. -/
  present : ∀ view args, x.transform view args.present = x.transform view args
  /-- What may keep the command from the transform is no name that is taken. -/
  misses : ∀ view args, Misses (x.transform view args)

theorem ofRotation_puts {command : Builtin} {rotation : Float → Transform}
    (hget : Table.builtin.get? command.definition.name = some command.command)
    (hplan : ∀ view args, command.plan view args = do
      let angle ← args.angle "angleIsInDegrees"
      let name ← args.string "name"
      return .change (.putMatrix name (rotation angle))) :
    (ofRotation command rotation).Puts where
  get? := hget
  plan view args := by
    rw [ofRotation, hplan]
    simp only [bind_assoc, pure_bind]
  present view args := by
    simp only [ofRotation, Args.angle, Args.float, Args.float?, Args.bool?, Args.typed,
      Args.get?_present]
  misses view args := misses_bind (misses_angle args _) fun _ => misses_ok _

theorem frame_puts : frame.Puts where
  get? := rfl
  plan view args := by
    simp only [frame, Builtin.createMatrixFromForwardVector, bind_assoc]
    refine bind_congr fun v => ?_
    cases Frame.ofForward? v.tip (some v.start) <;> rfl
  present view args := by
    simp only [frame, View.vector, Args.string_present]
  misses view args := by
    refine misses_bind (misses_vector view args _) fun v => ?_
    cases Frame.ofForward? v.tip (some v.start) with
    | none => exact misses_error (Error.misses_of_none rfl)
    | some t => exact misses_ok t

theorem all_put : ∀ x ∈ all, x.Puts := by
  simp only [all, List.forall_mem_cons]
  exact ⟨ofRotation_puts rfl fun _ _ => rfl, ofRotation_puts rfl fun _ _ => rfl,
    ofRotation_puts rfl fun _ _ => rfl, frame_puts, by simp⟩

/-- The arguments of a call pass the check, and the command ends because a name is taken. -/
def Clashes (x : Putter) (args : Args) (e : Engine) : Prop :=
  ∃ checked kind name, args.validate x.command.definition.parameters = .ok checked ∧
    (x.command.settle 0 checked e).1 = .error (.scene (.duplicateName kind name))

section Calls

variable {x : Putter} {ms : List Scene.Matrix} {e e' : Engine} {c : Call} {depth : Nat}
  {surface : Bool} {result : Value} {name : String}

/-- What the command does once its arguments have been checked. -/
theorem Puts.settle (hx : x.Puts) {args : Args} (hname : args.string "name" = .ok name) :
    x.command.settle depth args e = match x.transform e.builtinView args with
      | .error fault => (.error fault, e)
      | .ok t => (((Change.putMatrix name t).run e.workspace).1.mapError .scene,
          e.withWorkspace ((Change.putMatrix name t).run e.workspace).2) := by
  rw [Builtin.settle, hx.plan]
  cases x.transform e.builtinView args with
  | error fault => rfl
  | ok t =>
    simp only [bind, Except.bind, hname, pure, Except.pure]
    rw [Plan.perform_change]

/-- The command ends because a name is taken if the transform is found and the name hides a
matrix. -/
theorem Puts.settle_duplicate (hx : x.Puts) (hms : e.scene.matrices.Lists ms) {args : Args}
    (hname : args.string "name" = .ok name) :
    (∃ kind taken, (x.command.settle depth args e).1 =
        .error (.scene (.duplicateName kind taken))) ↔
      (∃ t, x.transform e.builtinView args = .ok t) ∧ e.scene.matrices.Hides name := by
  rw [hx.settle hname]
  cases ht : x.transform e.builtinView args with
  | error fault =>
    constructor
    · rintro ⟨kind, taken, hfault⟩
      -- what keeps the command from the transform is something else
      obtain rfl := Except.error.inj hfault
      obtain ⟨_, _, hmissing⟩ := hx.misses _ _ _ ht (.duplicateName kind taken) rfl
      cases hmissing
    · rintro ⟨⟨t, hok⟩, -⟩
      cases hok
  | ok t =>
    by_cases hides : e.scene.matrices.Hides name
    · simp only [putMatrix_refused hms hides]
      exact iff_of_true ⟨_, _, rfl⟩ ⟨⟨t, rfl⟩, hides⟩
    · simp only [(putMatrix_granted hms hides t).1]
      refine iff_of_false ?_ fun h => hides h.2
      rintro ⟨kind, taken, hfault⟩
      cases hfault

/-- **A name is refused** if the arguments pass the check, the transform is found, and the name
hides a matrix. -/
theorem Puts.clashes_iff (hx : x.Puts) (hms : e.scene.matrices.Lists ms) {args : Args}
    (hname : args.string "name" = .ok name) :
    x.Clashes args e ↔ (∃ checked, args.validate x.command.definition.parameters = .ok checked) ∧
      (∃ t, x.transform e.builtinView args = .ok t) ∧ e.scene.matrices.Hides name := by
  have hpresent : args.present.string "name" = .ok name := (args.string_present _).trans hname
  have hduplicate := @settle_duplicate x ms e 0 name hx hms args.present hpresent
  rw [hx.present] at hduplicate
  constructor
  · rintro ⟨checked, kind, taken, hvalid, hfault⟩
    obtain rfl := validate_ok hvalid
    exact ⟨⟨_, hvalid⟩, hduplicate.1 ⟨kind, taken, hfault⟩⟩
  · rintro ⟨⟨checked, hvalid⟩, hhidden⟩
    obtain rfl := validate_ok hvalid
    obtain ⟨kind, taken, hfault⟩ := hduplicate.2 hhidden
    exact ⟨_, kind, taken, hvalid, hfault⟩

/-- **A call that succeeds** has put the matrix. -/
theorem Puts.placed (hx : x.Puts) (hms : e.scene.matrices.Lists ms)
    (hc : c.name = x.command.definition.name) (hname : c.args.string "name" = .ok name)
    (hrun : dispatch Table.builtin depth surface c e = (.ok result, e'))
    (hok : ¬recovers Table.builtin depth c e) :
    ∃ t, x.transform e.builtinView c.args = .ok t ∧
      e.scene.matrices.Placed (namedMatrix name t) e'.scene.matrices := by
  cases depth with
  | zero => cases hrun
  | succ depth =>
    obtain ⟨plan, hplan, hok, hsettled, hworkspace⟩ := dispatch_succeeds (hc ▸ hx.get?) hrun hok
    rw [hx.plan, hx.present] at hplan
    obtain ⟨t, ht, hplan⟩ := ok_of_bind hplan
    obtain ⟨name', hname', hplan⟩ := ok_of_bind hplan
    obtain rfl : name = name' := by
      rw [Args.string_present, hname] at hname'
      exact Except.ok.inj hname'
    cases hplan
    obtain ⟨v, hchange⟩ := Plan.change_succeeds hok hsettled
    refine ⟨t, ht, ?_⟩
    have hscene : e'.scene = ((Change.putMatrix name t).run e.workspace).2.scene :=
      congrArg Workspace.scene hworkspace
    by_cases hides : e.scene.matrices.Hides name
    · have hrefused := (putMatrix_refused hms hides t).symm.trans (congrArg (·.1) hchange)
      cases hrefused
    · rw [hscene]
      exact (putMatrix_granted hms hides t).2

/-- A call that recovers does so because the transform is not found, or the name is taken. -/
theorem Puts.misses_or_clashes (hx : x.Puts) (hms : e.scene.matrices.Lists ms)
    (hc : c.name = x.command.definition.name) (hname : c.args.string "name" = .ok name)
    (h : recovers Table.builtin depth c e) :
    (∃ fault, x.transform e.builtinView c.args = .error fault) ∨ x.Clashes c.args e := by
  cases depth with
  | zero => exact absurd h id
  | succ depth =>
    obtain ⟨args, hvalid, h⟩ := (recovers_builtin (hc ▸ hx.get?) depth e).1 h
    obtain rfl := validate_ok hvalid
    have hpresent : c.args.present.string "name" = .ok name :=
      (c.args.string_present _).trans hname
    rw [hx.plan, hx.present] at h
    cases ht : x.transform e.builtinView c.args with
    | error fault => exact .inl ⟨fault, rfl⟩
    | ok t =>
      simp only [ht, bind, Except.bind, hpresent, pure, Except.pure] at h
      obtain ⟨fault, hfault, -⟩ := Plan.recovers_change.1 h
      refine .inr ((hx.clashes_iff hms hname).2 ⟨⟨_, hvalid⟩, ⟨t, ht⟩, ?_⟩)
      by_contra hides
      rw [Plan.perform_change, (putMatrix_granted hms hides t).1] at hfault
      cases hfault

end Calls

end Putter

/-! ### A call -/

/-- **Commands that put a matrix under a name.** The name is refused just if it is taken and leads
elsewhere, once the arguments have been checked and the transform of the matrix has been found. A
call that succeeds leaves the new matrix in the place that the name led to, or behind the others if
it led to none. Every matrix of another name is as it was, and the new one is in the place of the
one that had its name, or behind the others if none had, just if the name stands for itself. Names
that are no shortcuts do, and then they are not refused. -/
theorem dispatch_puts {e : Engine} (he : e.Reachable) {x : Putter} (hx : x ∈ Putter.all) {c : Call}
    (hc : c.name = x.command.definition.name) {name : String}
    (hname : c.args.string "name" = .ok name) :
    ((∀ rest, name.toList ≠ '$' :: rest) → e.scene.matrices.StandsForItself name) ∧
    (e.scene.matrices.StandsForItself name → ¬x.Clashes c.args e) ∧
    (x.Clashes c.args e ↔
      (∃ checked, c.args.validate x.command.definition.parameters = .ok checked) ∧
        (∃ t, x.transform e.builtinView c.args = .ok t) ∧ e.scene.matrices.Hides name) ∧
    ∀ ⦃depth surface result e'⦄, dispatch Table.builtin depth surface c e = (.ok result, e') →
      ¬recovers Table.builtin depth c e →
      ∃ t, x.transform e.builtinView c.args = .ok t ∧
        e.scene.matrices.Placed (namedMatrix name t) e'.scene.matrices ∧
        (e.scene.matrices.HasPut (namedMatrix name t) e'.scene.matrices ↔
          e.scene.matrices.StandsForItself name) := by
  obtain ⟨ms, -, hms, -⟩ := he.sane.matrices.rosters
  have hputs := Putter.all_put x hx
  have hclashes := hputs.clashes_iff hms hname
  refine ⟨hms.standsForItself, fun hself h => ?_, hclashes, ?_⟩
  · exact Registry.not_hides hself (hclashes.1 h).2.2
  · intro depth surface result e' hrun hok
    obtain ⟨t, ht, hplaced⟩ := hputs.placed hms hc hname hrun hok
    exact ⟨t, ht, hplaced, hplaced.hasPut_iff hms⟩

section Rotations

/-- The rotation that the examples put under a name. -/
def upRotation (name : String) : Call := ⟨"createUpRotationMatrix", .ofList
  [("name", .string name), ("angleIsInDegrees", .bool true), ("angle", .int 90)]⟩

/-- An engine in which calls have put rotations under some names. -/
def rotationEngine (names : List String) : Engine :=
  names.foldl (fun e name => (e.call Table.builtin false (upRotation name)).2)
    { draws := ⟨fun _ => 0, 0⟩, log := { files := {} } }

theorem rotationEngine_reachable (names : List String) : (rotationEngine names).Reachable := by
  unfold rotationEngine
  have hstart : Engine.Reachable { draws := ⟨fun _ => 0, 0⟩, log := { files := {} } } := .start _ _
  generalize ({ draws := ⟨fun _ => 0, 0⟩, log := { files := {} } } : Engine) = e at hstart
  induction names generalizing e with
  | nil => exact hstart
  | cons name rest ih => exact ih _ (.call false _ hstart)

/-- The command that puts a rotation. -/
def Putter.up : Putter := .ofRotation Builtin.createUpRotationMatrix .rotationY

theorem upRotation_named (name : String) : (upRotation name).args.string "name" = .ok name :=
  Args.string_of_get? ((Args.get?_ofList (by simp) "name").trans rfl)

theorem upRotation_found (name : String) (view : View) :
    ∃ t, Putter.up.transform view (upRotation name).args = .ok t := by
  have hget : ∀ key, (upRotation name).args.get? key = _ := Args.get?_ofList (by simp)
  simp only [Putter.up, Putter.ofRotation, Args.angle, Args.float, Args.float?, Args.bool?,
    Args.typed, hget]
  exact ⟨_, rfl⟩

/-- A rotation can always be found, so that the call recovers only if its name is taken. -/
theorem upRotation_clashes {e : Engine} (he : e.Reachable) {name : String} {depth : Nat}
    (h : recovers Table.builtin depth (upRotation name) e) : e.scene.matrices.Hides name := by
  obtain ⟨ms, -, hms, -⟩ := he.sane.matrices.rosters
  have hputs : Putter.up.Puts := Putter.all_put _ (by simp [Putter.all, Putter.up])
  have hname := upRotation_named name
  rcases hputs.misses_or_clashes hms rfl hname h with ⟨fault, hfault⟩ | hclashes
  · obtain ⟨t, ht⟩ := upRotation_found name e.builtinView
    rw [ht] at hfault
    cases hfault
  · exact ((hputs.clashes_iff hms hname).1 hclashes).2.2

/-- A rotation that has its name already is replaced. -/
theorem dispatch_puts_again :
    let e := rotationEngine ["n", "m", "o"]
    let x := dispatch Table.builtin 1 false (upRotation "m") e
    x.2.scene.matrices.names = ["n", "m", "o"] ∧ ¬Putter.up.Clashes (upRotation "m").args e ∧
      ∃ t, Putter.up.transform e.builtinView (upRotation "m").args = .ok t ∧
        e.scene.matrices.HasPut (namedMatrix "m" t) x.2.scene.matrices := by
  intro e x
  have hcomputed : x.1.isOk ∧ x.2.scene.matrices.names = ["n", "m", "o"] := by decide
  obtain ⟨hok, hnames⟩ := hcomputed
  have he : e.Reachable := rotationEngine_reachable _
  have hup : Putter.up ∈ Putter.all := by simp [Putter.all, Putter.up]
  obtain ⟨hliteral, hfree, -, hputs⟩ := dispatch_puts he hup (c := upRotation "m") rfl
    (upRotation_named "m")
  have hself : e.scene.matrices.StandsForItself "m" := hliteral fun rest => by simp
  cases hx : x with
  | mk value e' =>
    rw [hx] at hok hnames
    cases value with
    | error fault => cases hok
    | ok value =>
      obtain ⟨t, ht, -, hplace⟩ := hputs hx fun h =>
        Registry.not_hides hself (upRotation_clashes he h)
      exact ⟨hnames, hfree hself, t, ht, hplace.2 hself⟩

/-- A name that is a shortcut: the matrix that it leads to is replaced although it has another name,
and a second matrix of a shortcut that leads to none is refused. -/
theorem rotation_elsewhere :
    (let e := rotationEngine ["m"]
      let x := dispatch Table.builtin 1 false (upRotation "$") e
      e.Reachable ∧ x.1.isOk ∧ ¬recovers Table.builtin 1 (upRotation "$") e ∧
        e.scene.matrices.names = ["m"] ∧ x.2.scene.matrices.names = ["$"] ∧
        ∀ t, ¬e.scene.matrices.HasPut (namedMatrix "$" t) x.2.scene.matrices) ∧
    (rotationEngine ["$x"]).Reachable ∧
      Putter.up.Clashes (upRotation "$x").args (rotationEngine ["$x"]) := by
  refine ⟨?_, rotationEngine_reachable _, ?_⟩
  · intro e x
    have hcomputed : (x.1.isOk ∧ e.scene.matrices.names = ["m"]) ∧
        x.2.scene.matrices.names = ["$"] := by decide
    obtain ⟨⟨hok, hnames⟩, hnames'⟩ := hcomputed
    have he : e.Reachable := rotationEngine_reachable _
    refine ⟨he, hok, fun h => ?_, hnames, hnames', fun t hput => ?_⟩
    · -- no matrix has the name before the call
      have hmem := (upRotation_clashes he h).1
      rw [hnames] at hmem
      simp at hmem
    · -- the place of the other matrix holds the new name
      have hname : "m" ≠ "$" := by decide
      have hother := (hput.others 0 "m" (by rw [hnames]; rfl) hname).1
      rw [hnames'] at hother
      simp at hother
  · obtain ⟨ms, -, hms, -⟩ := (rotationEngine_reachable ["$x"]).sane.matrices.rosters
    have hputs : Putter.up.Puts := Putter.all_put _ (by simp [Putter.all, Putter.up])
    refine (hputs.clashes_iff hms (upRotation_named _)).2 ⟨⟨_, rfl⟩, upRotation_found _ _, ?_⟩
    have hcomputed : (rotationEngine ["$x"]).scene.matrices.names = ["$x"] ∧
      (rotationEngine ["$x"]).scene.matrices.resolve "$x" = none := by decide
    obtain ⟨hnames, hnone⟩ := hcomputed
    exact ⟨by rw [hnames]; simp, by rw [hnone]; simp⟩

end Rotations

end VectorScene.Command
