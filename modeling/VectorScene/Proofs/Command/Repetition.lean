import VectorScene.Proofs.Command.Edits
import VectorScene.Proofs.Command.Failure

/-!
# Commands that are run twice

A command that runs another one is recorded behind it, so that a replay runs the other one twice.
The second time nothing is changed but handles: an edit is done already, and the name of a copy is
taken. This holds although the names and shortcuts in the arguments may stand for other entities by
then.

## Main definitions

* `Settled`: a result, or a fault that is reported as one
* `Builtin.Repeats`: a command that changes nothing more when it is run again

## Main results

* `dispatch_ok`: what is known of a call that comes through
* `Builtin.repeats_of_put`: commands that put something in the place of what they find
* `Builtin.updateVector_repeats`, `Builtin.updateMatrix_repeats`: edits
-/

namespace VectorScene.Command

open Scene

variable {C : Color → Prop}

/-- A result, or a name that is taken or not found, which is reported as a result. -/
def Settled (x : Except Error Value) : Prop := ∀ fault, x = .error fault → fault.lookup?.isSome

theorem Settled.ok (v : Value) : Settled (.ok v) := nofun

theorem Settled.error {fault : Error} (h : fault.lookup?.isSome) : Settled (.error fault) := by
  rintro _ ⟨⟩
  exact h

theorem Settled.scene {fault : Scene.Error} (h : fault.isLookup) :
    Settled (.error (.scene fault)) :=
  .error (by simp [Error.lookup?, h])

/-! ### Calls that come through -/

section Conclude

variable {x : Except Error Value} (d : Definition) (surface : Bool) (args : Args) (e : Engine)

/-- What is settled is a result once it has been recorded. -/
theorem conclude_settled (h : Settled x) :
    ∃ result, (conclude d surface args x e).1 = .ok result := by
  cases x with
  | ok v => exact ⟨v, rfl⟩
  | error fault =>
    obtain ⟨lookup, -, -, hl⟩ := Error.lookup?_eq_some (h fault rfl)
    rw [conclude_lookup _ _ _ hl]
    exact ⟨_, rfl⟩

/-- What is settled is recorded. -/
theorem conclude_history (h : Settled x) :
    (conclude d surface args x e).2.history = e.history ++ [⟨d.name, args⟩] := by
  cases x with
  | ok v => exact e.record_history d surface args v
  | error fault =>
    obtain ⟨lookup, -, -, hl⟩ := Error.lookup?_eq_some (h fault rfl)
    rw [conclude_lookup _ _ _ hl]
    exact Engine.record_history _ d surface args _

theorem settled_of_conclude {result : Value} (h : (conclude d surface args x e).1 = .ok result) :
    Settled x := by
  rintro fault rfl
  cases hl : fault.lookup? with
  | none =>
    rw [conclude_fault _ _ _ hl] at h
    cases h
  | some lookup => rfl

end Conclude

/-- **A call that comes through** settles, and is recorded behind what its command did. -/
theorem dispatch_ok {b : Builtin} {c : Call} (hget : Table.builtin.get? c.name = some b.command)
    {depth : Nat} {surface : Bool} {e e' : Engine} {result : Value}
    (h : dispatch Table.builtin (depth + 1) surface c e = (.ok result, e')) :
    c.args.validate b.definition.parameters = .ok c.args.present ∧
      Settled (b.settle depth c.args.present e).1 ∧
      e'.workspace = (b.settle depth c.args.present e).2.workspace ∧
      e'.history = (b.settle depth c.args.present e).2.history ++
        [⟨b.definition.name, c.args.present⟩] := by
  rw [dispatch_builtin hget] at h
  cases hv : c.args.validate b.definition.parameters with
  | error fault =>
    simp only [hv] at h
    cases h
  | ok args =>
    obtain rfl := validate_ok hv
    simp only [hv] at h
    have hsettled := settled_of_conclude _ _ _ _ (congrArg Prod.fst h)
    have hworkspace := conclude_workspace b.definition surface c.args.present
      (b.settle depth c.args.present e).1 (b.settle depth c.args.present e).2
    have hhistory := conclude_history b.definition surface c.args.present
      (b.settle depth c.args.present e).2 hsettled
    rw [h] at hworkspace hhistory
    exact ⟨rfl, hsettled, hworkspace, hhistory⟩

/-! ### Commands that put something in place -/

namespace Builtin

/-- If the command comes to a result, it comes to one in the scene that it leaves, and changes
nothing but handles there. -/
def Repeats (C : Color → Prop) (b : Builtin) (args : Args) : Prop :=
  ∀ ⦃e e' : Engine⦄ ⦃depth : Nat⦄, e.workspace.Alike C e.workspace →
    e'.workspace.Alike C e'.workspace → Settled (b.settle depth args e).1 →
    e'.workspace = (b.settle depth args e).2.workspace →
    ∀ depth', Settled (b.settle depth' args e').1 ∧
      e'.workspace.Alike C (b.settle depth' args e').2.workspace

/-- A command that finds something in the scene and puts something else in its place. -/
theorem settle_put {α : Type} {b : Builtin} {args : Args} {find : Scene.State → Except Error α}
    {change : α → Change} {put : α → Scene.State → Except Scene.Error Scene.State}
    {result : α → Value}
    (hplan : ∀ view, b.plan view args = do
      let a ← find view.scene
      return .change (change a))
    (hrun : ∀ a w, (change a).run w = w.finish (put a w.scene) (result a)) (depth : Nat)
    (e : Engine) :
    b.settle depth args e = match find e.scene with
      | .error fault => (.error fault, e)
      | .ok a => ((e.workspace.finish (put a e.scene) (result a)).1.mapError .scene,
          e.withWorkspace (e.workspace.finish (put a e.scene) (result a)).2) := by
  have hscene : e.builtinView.scene = e.scene := rfl
  rw [settle, hplan, hscene]
  cases find e.scene with
  | error fault => rfl
  | ok a =>
    simp only [bind, Except.bind, pure, Except.pure]
    rw [Plan.perform_change, hrun]
    rfl

/-- **A command that puts something in place** can be run again if what it finds after the first
time is put in place without changing anything but handles. -/
theorem repeats_of_put {α : Type} {b : Builtin} {args : Args}
    (find : Scene.State → Except Error α) (change : α → Change)
    (put : α → Scene.State → Except Scene.Error Scene.State) (result : α → Value)
    (hplan : ∀ view, b.plan view args = do
      let a ← find view.scene
      return .change (change a))
    (hrun : ∀ a w, (change a).run w = w.finish (put a w.scene) (result a))
    (hfind : ∀ {s s' a fault}, find s = .ok a → find s' = .error fault → fault.lookup?.isSome)
    (hput : ∀ {a s fault}, put a s = .error fault → fault.isLookup)
    (hagain : ∀ {s t u a a' t'}, s.Alike C s → find s = .ok a → put a s = .ok t →
      u = t.requestMenu → u.Alike C u → find u = .ok a' → put a' u = .ok t' → u.Alike C t') :
    b.Repeats C args := by
  intro e e' depth he he' hsettled hworkspace depth'
  have hscene : e'.scene = (b.settle depth args e).2.scene :=
    congrArg Workspace.scene hworkspace
  rw [settle_put hplan hrun] at hsettled hscene
  rw [settle_put hplan hrun]
  cases hfound : find e.scene with
  | error fault =>
    -- nothing was done the first time, so the same happens again
    rw [hfound] at hsettled hscene
    rw [hscene, hfound]
    exact ⟨hsettled, he'⟩
  | ok a =>
    rw [hfound] at hscene
    cases hplaced : put a e.scene with
    | error fault =>
      -- what was found could not be replaced, and the scene is as before
      simp only [hplaced, Workspace.finish] at hscene
      have hsame : e'.scene = e.scene := hscene
      rw [hsame, hfound]
      simp only [hplaced, Workspace.finish, Except.mapError]
      exact ⟨.scene (hput hplaced), he'⟩
    | ok t =>
      simp only [hplaced, Workspace.finish] at hscene
      have hsame : e'.scene = t.requestMenu := hscene
      -- the entity may have got another name, so that its key leads nowhere or elsewhere
      cases hfound' : find e'.scene with
      | error fault => exact ⟨.error (hfind hfound hfound'), he'⟩
      | ok a' =>
        simp only
        cases hplaced' : put a' e'.scene with
        | error fault => exact ⟨.scene (hput hplaced'), he'⟩
        | ok t' =>
          have halike := hagain he.scene hfound hplaced hsame he'.scene hfound' hplaced'
          exact ⟨.ok _, { halike with }, rfl⟩

end Builtin

/-! ### What a key leads to -/

section Require

variable {α : Type} [Entity α] {r : Registry α} {key : String}

theorem require_ok {e : α} (h : (r.require key).mapError Error.scene = .ok e) :
    r.get? key = some e := by
  unfold Registry.require at h
  cases hget : r.get? key with
  | none =>
    rw [hget] at h
    cases h
  | some x =>
    rw [hget] at h
    cases h
    rfl

theorem require_error {fault : Error} (h : (r.require key).mapError Error.scene = .error fault) :
    fault.lookup?.isSome := by
  unfold Registry.require at h
  cases hget : r.get? key with
  | none =>
    rw [hget] at h
    cases h
    rfl
  | some x =>
    rw [hget] at h
    cases h

end Require

/-! ### Edits -/

section Find

variable {α β : Type} [Entity α] {args : Args} {key : String} {read : Except Error β}

/-- The entity that an argument names, and the edit that the other arguments say. -/
def findEdit (args : Args) (key : String) (read : Except Error β) (r : Registry α) :
    Except Error (α × β) := do
  let name ← args.string key
  let e ← (r.require name).mapError .scene
  let edit ← read
  return (e, edit)

theorem findEdit_ok {r : Registry α} {p : α × β} (h : findEdit args key read r = .ok p) :
    ∃ name, args.string key = .ok name ∧ r.get? name = some p.1 ∧ read = .ok p.2 := by
  obtain ⟨name, hname, h⟩ := ok_of_bind h
  obtain ⟨e, he, h⟩ := ok_of_bind h
  obtain ⟨edit, hedit, h⟩ := ok_of_bind h
  cases h
  exact ⟨name, hname, require_ok he, hedit⟩

/-- Two times the key and the edit are the same. -/
theorem findEdit_again {r r' : Registry α} {p p' : α × β} (h : findEdit args key read r = .ok p)
    (h' : findEdit args key read r' = .ok p') :
    p'.2 = p.2 ∧ read = .ok p.2 ∧ ∃ name, r.get? name = some p.1 ∧ r'.get? name = some p'.1 := by
  obtain ⟨name, hname, hget, hread⟩ := findEdit_ok h
  obtain ⟨name', hname', hget', hread'⟩ := findEdit_ok h'
  obtain rfl : name = name' := Except.ok.inj (hname.symm.trans hname')
  exact ⟨Except.ok.inj (hread'.symm.trans hread), hread, name, hget, hget'⟩

/-- Where an entity was found and the edit could be read, nothing but the entity can be missing the
second time. -/
theorem findEdit_error {r r' : Registry α} {p : α × β} {fault : Error}
    (h : findEdit args key read r = .ok p) (h' : findEdit args key read r' = .error fault) :
    fault.lookup?.isSome := by
  obtain ⟨name, hname, -, hread⟩ := findEdit_ok h
  simp only [findEdit, hname, hread] at h'
  cases hv : (r'.require name).mapError Error.scene with
  | error cause =>
    refine require_error (hv.trans ?_)
    simpa [bind, Except.bind, hv] using h'
  | ok v => simp [bind, Except.bind, pure, Except.pure, hv] at h'

/-- What is read of two arguments of which one is not given. -/
theorem none_or_none {key' : String} (h : args.get? key = none ∨ args.get? key' = none)
    {text text' : Option String} (hkey : args.string? key = .ok text)
    (hkey' : args.string? key' = .ok text') : text = none ∨ text' = none := by
  rcases h with hnone | hnone
  · left
    rw [Args.string?, Args.typed_of_none hnone] at hkey
    exact (Except.ok.inj hkey).symm
  · right
    rw [Args.string?, Args.typed_of_none hnone] at hkey'
    exact (Except.ok.inj hkey').symm

end Find

namespace Builtin

theorem updateVector_repeats (hlimit : ∀ c ≤ Color.limit, C c) {args : Args}
    (hargs : args.get? "newVectorName" = none ∨ args.get? "textToRender" = none) :
    updateVector.Repeats C args := by
  have hplan : ∀ view, updateVector.plan view args = do
      let p ← findEdit args "vector" (VectorEdit.read args) view.scene.vectors
      return .change (.replaceVector p.1.name (p.2.newName p.1) (p.2.sketch p.1) true) := by
    intro view
    rw [updateVector_plan]
    simp only [findEdit, View.vector, bind_assoc, pure_bind]
  refine repeats_of_put (fun s => findEdit args "vector" (VectorEdit.read args) s.vectors)
    (fun p => .replaceVector p.1.name (p.2.newName p.1) (p.2.sketch p.1) true)
    (fun p s => s.replaceVector p.1.name (p.2.apply p.1)) (fun p => .string (p.2.newName p.1))
    hplan (fun p w => p.2.run p.1 w) findEdit_error State.replaceVector_error ?_
  intro s t u p p' t' hs hfind hput hu halike hfind' hput'
  obtain ⟨hedit, hread, key, hv, hv'⟩ := findEdit_again hfind hfind'
  obtain ⟨hname, hlabel, hcolor⟩ := VectorEdit.read_ok hread
  have htame := none_or_none hargs hname hlabel
  -- the color of the edited vector is the old one, or one that was given as an argument
  have hfit : ∀ v : Scene.Vector, C v.color → C (p.2.apply v).color := by
    intro v hv
    show C (p.2.color.getD v.color)
    cases hc : p.2.color with
    | none => exact hv
    | some c => exact hlimit c (args.color?_gives _ hcolor c hc)
  obtain ⟨hgranted, rfl⟩ := State.replaceVector_ok hput
  rw [hedit] at hput'
  obtain ⟨hgranted', rfl⟩ := State.replaceVector_ok hput'
  have hvectors := hs.vectors.revise_again (Vector.lasting_color C) (VectorEdit.revision htame)
    hfit hv hgranted (congrArg State.vectors hu) hv' hgranted'
  exact { halike with vectors := hvectors }

theorem updateMatrix_repeats {args : Args}
    (hargs : args.get? "newMatrixName" = none ∨ args.get? "textToRender" = none) :
    updateMatrix.Repeats C args := by
  have hplan : ∀ view, updateMatrix.plan view args = do
      let p ← findEdit args "oldMatrixName" (MatrixEdit.read args) view.scene.matrices
      return .change (.replaceMatrix p.1.name (p.2.newName p.1)
        (p.2.transform.getD p.1.transform) (p.2.options p.1)) := by
    intro view
    rw [updateMatrix_plan]
    simp only [findEdit, View.matrix, bind_assoc, pure_bind]
  refine repeats_of_put (fun s => findEdit args "oldMatrixName" (MatrixEdit.read args) s.matrices)
    (fun p => .replaceMatrix p.1.name (p.2.newName p.1) (p.2.transform.getD p.1.transform)
      (p.2.options p.1))
    (fun p s => s.replaceMatrix p.1.name (p.2.apply p.1)) (fun p => .string (p.2.newName p.1))
    hplan (fun p w => p.2.run p.1 w) findEdit_error State.replaceMatrix_error ?_
  intro s t u p p' t' hs hfind hput hu halike hfind' hput'
  obtain ⟨hedit, hread, key, hm, hm'⟩ := findEdit_again hfind hfind'
  obtain ⟨hname, hlabel⟩ := MatrixEdit.read_ok hread
  have htame := none_or_none hargs hname hlabel
  obtain ⟨hgranted, rfl⟩ := State.replaceMatrix_ok hput
  rw [hedit] at hput'
  obtain ⟨hgranted', rfl⟩ := State.replaceMatrix_ok hput'
  have hmatrices := hs.matrices.revise_again Matrix.lasting_posed (MatrixEdit.revision htame)
    (fun _ _ => trivial) hm hgranted (congrArg State.matrices hu) hm' hgranted'
  exact { halike with matrices := hmatrices }

end Builtin

end VectorScene.Command
