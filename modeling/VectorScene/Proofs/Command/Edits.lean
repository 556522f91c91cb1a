import VectorScene.Command.Builtin.Editing
import VectorScene.Proofs.Command.Arguments
import VectorScene.Proofs.Command.Changes
import VectorScene.Proofs.Scene.Revising

/-!
# Edits

What `updateVector` and `updateMatrix` make of an entity is read from their arguments before they
look at it. An edit that does not give both a new name and a new label does nothing more the second
time.

## Main definitions

* `VectorEdit`, `MatrixEdit`: what the arguments say
* `VectorEdit.apply`, `MatrixEdit.apply`: the entity after an edit

## Main results

* `updateVector_plan`, `updateMatrix_plan`: the two commands in terms of edits
* `VectorEdit.revision`, `MatrixEdit.revision`: an edit done twice
-/

namespace VectorScene.Command

open VectorScene.Geometry Scene

theorem ok_of_bind {ε α β : Type} {x : Except ε α} {f : α → Except ε β} {b : β}
    (h : x >>= f = .ok b) : ∃ a, x = .ok a ∧ f a = .ok b := by
  cases x with
  | error fault => cases h
  | ok a => exact ⟨a, rfl, h⟩

/-! ### What is chosen twice -/

theorem getD_getD {α : Type} (chosen : Option α) (a : α) :
    chosen.getD (chosen.getD a) = chosen.getD a := by
  cases chosen <;> rfl

/-- A label after an edit with the given new name and label, where the old ones are known. A label
that shows the name goes on showing it. -/
def relabel (newName newLabel : Option String) (name label : String) : String :=
  let chosen := newLabel.getD label
  Scene.Vector.labelOr (some (if chosen = name then newName.getD name else chosen))
    (newName.getD name)

/-- An edit that does not give both a name and a label leaves the label alone the second time. -/
theorem relabel_again {newName newLabel : Option String} (h : newName = none ∨ newLabel = none)
    (name label : String) :
    relabel newName newLabel (newName.getD name) (relabel newName newLabel name label) =
      relabel newName newLabel name label := by
  have hself : ∀ text name : String, (if text = name then name else text) = text := by
    intro text name
    split
    · rename_i heq
      exact heq.symm
    · rfl
  have hshown : ∀ text name : String, Scene.Vector.labelOr (some
      (Scene.Vector.labelOr (some text) name)) name = Scene.Vector.labelOr (some text) name := by
    intro text name
    unfold Scene.Vector.labelOr
    simp only
    by_cases htext : text.isEmpty
    · simp only [if_pos htext]
      split <;> rfl
    · simp only [if_neg htext]
  simp only [relabel, getD_getD, hself]
  -- the first time the label that is kept was made to show the new name
  cases newLabel with
  | none => exact hshown _ _
  | some text =>
    obtain rfl : newName = none := h.resolve_right nofun
    simp only [Option.getD_some, Option.getD_none, hself]

/-! ### Vectors -/

/-- What the arguments of `updateVector` say. -/
structure VectorEdit where
  name : Option String
  startX : Option Float
  startY : Option Float
  startZ : Option Float
  tipX : Option Float
  tipY : Option Float
  tipZ : Option Float
  mode : Option RenderMode
  label : Option String
  color : Option Color
  labelled : Option Bool
  visible : Option Bool
  scale : Option Point

namespace VectorEdit

/-- Reads an edit from the arguments of `updateVector`. -/
def read (args : Args) : Except Error VectorEdit := do
  let name ← args.string? "newVectorName"
  let startX ← args.float? "originX"
  let startY ← args.float? "originY"
  let startZ ← args.float? "originZ"
  let tipX ← args.float? "endX"
  let tipY ← args.float? "endY"
  let tipZ ← args.float? "endZ"
  let mode ← args.mode? "renderMode"
  let label ← args.string? "textToRender"
  let color ← args.color?
  let labelled ← args.bool? "renderText"
  let visible ← args.bool? "visible"
  let scale ← args.point? "scaleVector"
  return { name, startX, startY, startZ, tipX, tipY, tipZ, mode, label, color, labelled, visible,
           scale }

theorem read_ok {args : Args} {edit : VectorEdit} (h : read args = .ok edit) :
    args.string? "newVectorName" = .ok edit.name ∧ args.string? "textToRender" = .ok edit.label ∧
      args.color? = .ok edit.color := by
  unfold read at h
  obtain ⟨name, hname, h⟩ := ok_of_bind h
  -- the six coordinates and the render mode
  iterate 7 obtain ⟨_, -, h⟩ := ok_of_bind h
  obtain ⟨label, hlabel, h⟩ := ok_of_bind h
  obtain ⟨color, hcolor, h⟩ := ok_of_bind h
  iterate 3 obtain ⟨_, -, h⟩ := ok_of_bind h
  cases h
  exact ⟨hname, hlabel, hcolor⟩

variable (edit : VectorEdit) (v : Scene.Vector)

/-- The name after the edit. -/
def newName : String := edit.name.getD v.name

/-- What `updateVector` puts in the place of a vector. -/
def sketch : Sketch where
  start := ⟨edit.startX.getD v.start.x, edit.startY.getD v.start.y, edit.startZ.getD v.start.z⟩
  tip := ⟨edit.tipX.getD v.tip.x, edit.tipY.getD v.tip.y, edit.tipZ.getD v.tip.z⟩
  options := {
    color := some (edit.color.getD v.color)
    mode := some (edit.mode.getD v.mode)
    labelled := some (edit.labelled.getD v.labelled)
    label := some (
      if edit.label.getD v.label = v.name then edit.newName v else edit.label.getD v.label)
    visible := some (edit.visible.getD v.visible)
    scale := some (edit.scale.getD v.scale)
    basisA := v.basisA
    basisB := v.basisB }

/-- The vector after the edit. -/
def apply : Scene.Vector :=
  .build (edit.newName v) (edit.sketch v).start (edit.sketch v).tip (edit.color.getD v.color)
    (edit.sketch v).options

theorem apply_name : (edit.apply v).name = edit.name.getD v.name := rfl

theorem apply_label : (edit.apply v).label = relabel edit.name edit.label v.name v.label := rfl

/-- **An edit done twice** does nothing more, unless it gives both a name and a label. -/
theorem revision {edit : VectorEdit} (h : edit.name = none ∨ edit.label = none) :
    Revision edit.apply where
  congr {v v'} hbare := by
    have happly : ∀ v : Scene.Vector, edit.apply v = edit.apply v.bare := fun _ => rfl
    have hbare : v.bare = v'.bare := hbare
    rw [happly v, happly v', hbare]
  again v := by
    have hlabel := relabel_again h v.name v.label
    rw [← apply_name, ← apply_label] at hlabel
    -- every other field is chosen by the edit, or left as it was
    have hagain : edit.apply (edit.apply v) =
        { edit.apply v with label := (edit.apply (edit.apply v)).label } := by
      simp only [apply, newName, sketch, Scene.Vector.build, getD_getD, Option.getD_some]
    rw [apply_label, hlabel] at hagain
    exact congrArg Scene.Vector.bare hagain

end VectorEdit

theorem updateVector_plan (view : View) (args : Args) :
    Builtin.updateVector.plan view args = do
      let v ← view.vector args "vector"
      let edit ← VectorEdit.read args
      return .change (.replaceVector v.name (edit.newName v) (edit.sketch v) true) := by
  simp only [VectorEdit.read, bind_assoc, pure_bind]
  rfl

/-- No random number is used up by an edit. -/
theorem VectorEdit.run (edit : VectorEdit) (v : Scene.Vector) (w : Workspace) :
    (Change.replaceVector v.name (edit.newName v) (edit.sketch v) true).run w =
      w.finish (w.scene.replaceVector v.name (edit.apply v)) (.string (edit.newName v)) := by
  have hdraw : (edit.sketch v).draw (edit.newName v) w.draws = (edit.apply v, w.draws) := rfl
  simp only [Change.run, hdraw]
  cases w.scene.replaceVector v.name (edit.apply v) <;> rfl

/-! ### Matrices -/

/-- What the arguments of `updateMatrix` say. -/
structure MatrixEdit where
  name : Option String
  label : Option String
  visible : Option Bool
  labelled : Option Bool
  transform : Option Transform

namespace MatrixEdit

/-- Reads an edit from the arguments of `updateMatrix`. -/
def read (args : Args) : Except Error MatrixEdit := do
  let name ← args.string? "newMatrixName"
  let label ← args.string? "textToRender"
  let visible ← args.bool? "visible"
  let labelled ← args.bool? "renderText"
  let transform ← args.transform? "matrix"
  return { name, label, visible, labelled, transform }

theorem read_ok {args : Args} {edit : MatrixEdit} (h : read args = .ok edit) :
    args.string? "newMatrixName" = .ok edit.name ∧
      args.string? "textToRender" = .ok edit.label := by
  unfold read at h
  obtain ⟨name, hname, h⟩ := ok_of_bind h
  obtain ⟨label, hlabel, h⟩ := ok_of_bind h
  iterate 3 obtain ⟨_, -, h⟩ := ok_of_bind h
  cases h
  exact ⟨hname, hlabel⟩

variable (edit : MatrixEdit) (m : Scene.Matrix)

/-- The name after the edit. -/
def newName : String := edit.name.getD m.name

/-- The options of what `updateMatrix` puts in the place of a matrix. -/
def options : Scene.Matrix.Options where
  visible := some (edit.visible.getD m.visible)
  labelled := some (edit.labelled.getD m.labelled)
  label := some (
    if edit.label.getD m.label = m.name then edit.newName m else edit.label.getD m.label)

/-- The matrix after the edit. -/
def apply : Scene.Matrix :=
  .build (edit.newName m) (edit.transform.getD m.transform) (edit.options m)

theorem apply_name : (edit.apply m).name = edit.name.getD m.name := rfl

theorem apply_label : (edit.apply m).label = relabel edit.name edit.label m.name m.label := rfl

theorem revision {edit : MatrixEdit} (h : edit.name = none ∨ edit.label = none) :
    Revision edit.apply where
  congr {m m'} hbare := by
    have happly : ∀ m : Scene.Matrix, edit.apply m = edit.apply m.bare := fun _ => rfl
    have hbare : m.bare = m'.bare := hbare
    rw [happly m, happly m', hbare]
  again m := by
    have hlabel := relabel_again h m.name m.label
    rw [← apply_name, ← apply_label] at hlabel
    have hagain : edit.apply (edit.apply m) =
        { edit.apply m with label := (edit.apply (edit.apply m)).label } := by
      simp only [apply, newName, options, Scene.Matrix.build, getD_getD, Option.getD_some]
    rw [apply_label, hlabel] at hagain
    exact congrArg Scene.Matrix.bare hagain

end MatrixEdit

theorem updateMatrix_plan (view : View) (args : Args) :
    Builtin.updateMatrix.plan view args = do
      let m ← view.matrix args "oldMatrixName"
      let edit ← MatrixEdit.read args
      return .change (.replaceMatrix m.name (edit.newName m) (edit.transform.getD m.transform)
        (edit.options m)) := by
  simp only [MatrixEdit.read, bind_assoc, pure_bind]
  rfl

theorem MatrixEdit.run (edit : MatrixEdit) (m : Scene.Matrix) (w : Workspace) :
    (Change.replaceMatrix m.name (edit.newName m) (edit.transform.getD m.transform)
      (edit.options m)).run w =
      w.finish (w.scene.replaceMatrix m.name (edit.apply m)) (.string (edit.newName m)) := rfl

end VectorScene.Command
