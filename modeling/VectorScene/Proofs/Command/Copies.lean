import VectorScene.Proofs.Command.Repetition

/-!
# Copies

`duplicateVector` runs `createVector` with arguments that are made from a vector. They pass every
check, and no color has to be drawn for the copy. Run again, the command fails to make a second copy
of the name, whatever vector its key leads to by then.

## Main definitions

* `copyArgs`: the arguments that are made from a vector
* `copySketch`: the vector that they say

## Main results

* `copyArgs_validate`, `createVector_copy`: the arguments pass every check
* `dispatch_copy`: the call that makes a copy
* `duplicateVector_again`: a second copy
-/

namespace VectorScene.Command

open VectorScene.Geometry Scene

/-! ### The arguments of a copy -/

/-- The entries of the arguments with which `duplicateVector` runs `createVector`. -/
def copyEntries (name : String) (v : Scene.Vector) : List (String × Value) :=
  let label := if v.label = v.name then [] else [("textToRender", Value.string v.label)]
  [("name", .string name), ("startPosition", .ofPoint v.start), ("endPosition", .ofPoint v.tip),
    ("color", .int (Int64.ofInt v.color.toNat)), ("renderMode", .string v.mode.name),
    ("renderText", .bool v.labelled), ("visible", .bool v.visible),
    ("scaleVector", .ofPoint v.scale)] ++ label

/-- The arguments with which `duplicateVector` runs `createVector`. -/
def copyArgs (name : String) (v : Scene.Vector) : Args := .ofList (copyEntries name v)

/-- The sketch of a copy. -/
def copySketch (v : Scene.Vector) : Sketch where
  start := v.start
  tip := v.tip
  options := {
    color := some v.color
    mode := some v.mode
    labelled := some v.labelled
    label := if v.label = v.name then none else some v.label
    visible := some v.visible
    scale := some v.scale }

theorem duplicateVector_plan (view : View) (args : Args) :
    Builtin.duplicateVector.plan view args = do
      let v ← view.vector args "vector"
      let name ← args.string "name"
      return .delegate ⟨"createVector", copyArgs name v⟩ := rfl

/-! ### What is given -/

section

variable (name : String) (v : Scene.Vector)

theorem copyArgs_get? (key : String) :
    (copyArgs name v).get? key = ((copyEntries name v).lookup key).filter (!·.isAbsent) := by
  refine Args.get?_ofList ?_ key
  unfold copyEntries
  simp only [List.map_append]
  split <;> simp

/-- What is always given of a copy. -/
theorem copyArgs_given :
    (copyArgs name v).get? "name" = some (.string name) ∧
      (copyArgs name v).get? "startPosition" = some (.ofPoint v.start) ∧
      (copyArgs name v).get? "endPosition" = some (.ofPoint v.tip) ∧
      (copyArgs name v).get? "color" = some (.int (Int64.ofInt v.color.toNat)) ∧
      (copyArgs name v).get? "renderMode" = some (.string v.mode.name) ∧
      (copyArgs name v).get? "renderText" = some (.bool v.labelled) ∧
      (copyArgs name v).get? "visible" = some (.bool v.visible) ∧
      (copyArgs name v).get? "scaleVector" = some (.ofPoint v.scale) := by
  refine ⟨?_, ?_, ?_, ?_, ?_, ?_, ?_, ?_⟩ <;> (rw [copyArgs_get?]; rfl)

/-- A label that shows the name of the vector is left to the name of the copy. -/
theorem copyArgs_label : (copyArgs name v).get? "textToRender" =
    if v.label = v.name then none else some (.string v.label) := by
  rw [copyArgs_get?, copyEntries]
  split <;> rfl

/-- **The arguments of a copy** pass the checks of `createVector`. -/
theorem copyArgs_validate :
    (copyArgs name v).validate Builtin.createVector.definition.parameters =
      .ok (copyArgs name v).present := by
  obtain ⟨hname, hstart, htip, hcolor, hmode, hlabelled, hvisible, hscale⟩ := copyArgs_given name v
  have hlabel := copyArgs_label name v
  have hfault : ∀ p ∈ Builtin.createVector.definition.parameters,
      (copyArgs name v).fault? p = none := by
    simp only [Builtin.createVector, List.forall_mem_cons]
    refine ⟨Args.fault?_of_accepts hname rfl, Args.fault?_of_accepts hstart rfl,
      Args.fault?_of_accepts htip rfl, Args.fault?_of_accepts hcolor rfl,
      Args.fault?_of_accepts hmode rfl, Args.fault?_of_accepts hlabelled rfl, ?_,
      Args.fault?_of_accepts hvisible rfl, Args.fault?_of_accepts hscale rfl, by simp⟩
    have hlabel := copyArgs_label name v
    split at hlabel
    · simp only [Args.fault?, optional, hlabel]
      rfl
    · exact Args.fault?_of_accepts hlabel rfl
  rw [Args.validate, List.findSome?_eq_none_iff.2 hfault]

/-- **What `createVector` does** with the arguments of a copy. -/
theorem createVector_copy (hv : v.color ≤ Color.limit) (view : View) :
    Builtin.createVector.plan view (copyArgs name v).present =
      .ok (.change (.newVector name (copySketch v))) := by
  obtain ⟨hname, hstart, htip, hcolor, hmode, hlabelled, hvisible, hscale⟩ := copyArgs_given name v
  rw [← Args.get?_present] at hname hstart htip hcolor hmode hlabelled hvisible hscale
  have hlabel : (copyArgs name v).present.string? "textToRender" =
      .ok (copySketch v).options.label := by
    have hshown := copyArgs_label name v
    rw [← Args.get?_present] at hshown
    unfold copySketch
    split at hshown
    · rename_i hsame
      rw [if_pos hsame]
      exact Args.typed_of_none hshown
    · rename_i hother
      rw [if_neg hother]
      exact Args.string?_of_get? hshown
  simp only [Builtin.createVector, Args.mode?_of_get? hmode, Args.color?_of_get? hv hcolor,
    Args.bool?_of_get? hlabelled, hlabel, Args.bool?_of_get? hvisible, Args.point?_of_get? hscale,
    Args.string_of_get? hname, Args.point_of_get? hstart, Args.point_of_get? htip, bind,
    Except.bind]
  rfl

end

/-! ### A second copy -/

/-- The copy of a vector under another name. -/
def copyOf (name : String) (v : Scene.Vector) : Scene.Vector :=
  .build name v.start v.tip v.color (copySketch v).options

/-- **A copy that is made**: every argument is good, and no random number is used up. -/
theorem dispatch_copy (name : String) {v : Scene.Vector} (hv : v.color ≤ Color.limit) (depth : Nat)
    (surface : Bool) (e : Engine) :
    dispatch Table.builtin (depth + 1) surface ⟨"createVector", copyArgs name v⟩ e =
      conclude Builtin.createVector.definition surface (copyArgs name v).present
        ((e.workspace.finish (e.scene.createVector (copyOf name v)) (.string name)).1.mapError
          .scene)
        (e.withWorkspace
          (e.workspace.finish (e.scene.createVector (copyOf name v)) (.string name)).2) := by
  have hget : Table.builtin.get? "createVector" = some Builtin.createVector.command := rfl
  have hvalid := copyArgs_validate name v
  have hplan := createVector_copy name v hv e.builtinView
  rw [dispatch_builtin hget]
  simp only [hvalid, Builtin.settle, hplan]
  rfl

theorem createVector_taken {s : Scene.State} {v : Scene.Vector}
    (h : (s.vectors.named? v.name).isSome) :
    s.createVector v = .error (.duplicateName .vector v.name) := by
  have hcreate : s.vectors.create v s.stage = .error (.duplicateName .vector v.name) := if_pos h
  rw [State.createVector, hcreate]
  rfl

/-- The name of a copy is taken afterwards, whether or not it was before. -/
theorem named_createVector (w : Workspace) (v : Scene.Vector) (result : Value) :
    ((w.finish (w.scene.createVector v) result).2.scene.vectors.named? v.name).isSome := by
  by_cases h : (w.scene.vectors.named? v.name).isSome
  · rw [createVector_taken h]
    exact h
  · have hcreate : w.scene.vectors.create v w.scene.stage =
        .ok (⟨(v.name, (Entity.enter v w.scene.stage).1) :: w.scene.vectors.stored,
          w.scene.vectors.order ++ [v.name]⟩, (Entity.enter v w.scene.stage).2) := if_neg h
    rw [State.createVector, hcreate]
    simp [bind, Except.bind, pure, Except.pure, Workspace.finish, State.requestMenu,
      Registry.named?]

/-- **A second copy** is refused, whatever the key of the first one leads to by then. -/
theorem duplicateVector_again {C : Color → Prop} (hC : ∀ c, C c → c ≤ Color.limit) {e e' : Engine}
    (he : e.workspace.Alike C e.workspace) (he' : e'.workspace.Alike C e'.workspace) {args : Args}
    {c : Call} (hplan : Builtin.duplicateVector.plan e.builtinView args = .ok (.delegate c))
    {depth : Nat} {result : Value}
    (hinner : dispatch Table.builtin (depth + 1) false c e = (.ok result, e')) (depth' : Nat) :
    Settled (Builtin.duplicateVector.settle (depth' + 1) args e').1 ∧
      e'.workspace.Alike C (Builtin.duplicateVector.settle (depth' + 1) args e').2.workspace := by
  rw [duplicateVector_plan] at hplan
  obtain ⟨v, hv, hplan⟩ := ok_of_bind hplan
  obtain ⟨name, hname, hplan⟩ := ok_of_bind hplan
  cases hplan
  obtain ⟨key, hkey, hv⟩ := ok_of_bind hv
  -- the name is taken after the first copy
  have htaken : (e'.scene.vectors.named? name).isSome := by
    have hcolor := hC _ (he.scene.vectors.of_get? (require_ok hv))
    rw [dispatch_copy name hcolor] at hinner
    have hsame := congrArg (fun r => r.2.workspace.scene.vectors) hinner
    simp only [conclude_workspace] at hsame
    have hnamed := named_createVector e.workspace (copyOf name v) (.string name)
    exact hsame ▸ hnamed
  rw [Builtin.settle, duplicateVector_plan, View.vector, hkey]
  cases hu : (e'.builtinView.scene.vectors.require key).mapError Error.scene with
  | error fault =>
    simp only [bind, Except.bind, hu]
    exact ⟨.error (require_error hu), he'⟩
  | ok u =>
    have hcolor := hC _ (he'.scene.vectors.of_get? (require_ok hu))
    have hrefused : e'.scene.createVector (copyOf name u) =
        .error (.duplicateName .vector name) := createVector_taken htaken
    simp only [bind, Except.bind, hu, hname, pure, Except.pure]
    rw [Plan.perform_delegate, dispatch_copy name hcolor, hrefused, conclude_workspace]
    exact ⟨.ok _, he'⟩

end VectorScene.Command
