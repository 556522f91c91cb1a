import VectorScene.Proofs.Command.Runs
import VectorScene.Proofs.Scene.Captions

/-!
# Scenes that calls make

Colors get into a scene as arguments, which are checked, as colors of other vectors, as constants
and as random numbers. Labels get into it as arguments, which are not checked, as texts that
commands make, and as the labels of other entities; but an entity whose label is empty gets its name
for a label. So the colors of a scene that was made by calls have 24 bits, and its labels are empty
only where the name is, whatever the calls come to.

## Main definitions

* `Workspace.Tidy`: such a scene, with a stream that such colors can be drawn from

## Main results

* `Change.captioned`: labels, one change
* `Call.Settles.colored`: the colors that the change of a plan chooses
* `Engine.call_tidy`, `Engine.callAll_tidy`: calls
-/

namespace VectorScene.Command

open VectorScene.Geometry Scene

/-! ### Labels -/

namespace Workspace

variable {w : Workspace}

theorem finish_captioned (h : w.scene.Captioned) {x : Except Scene.Error Scene.State}
    (hx : Gives State.Captioned x) (result : Value) : (w.finish x result).2.scene.Captioned := by
  cases x with
  | ok s =>
    have hs := hx s rfl
    exact { hs with }
  | error fault => exact h

theorem addVector_captioned (h : w.scene.Captioned) (name : String) (sketch : Sketch) :
    (w.addVector name sketch).2.scene.Captioned := by
  rw [addVector_eq]
  exact finish_captioned (w := ⟨w.scene, (sketch.draw name w.draws).2⟩) h
    (fun _ => h.createVector (Vector.captioned_draw name _ _ _ _)) _

theorem addMatrix_captioned (h : w.scene.Captioned) (name : String) (transform : Transform) :
    (w.addMatrix name transform).2.scene.Captioned :=
  finish_captioned h (fun _ => h.createMatrix (Matrix.captioned_build _ _ _)) _

theorem createAll_captioned {s : Scene.State} (h : s.Captioned) {vs : List Scene.Vector}
    (hvs : ∀ v ∈ vs, v.Captioned) : (createAll vs s).2.Captioned := by
  induction vs generalizing s with
  | nil => exact h
  | cons v rest ih =>
    obtain ⟨hv, hrest⟩ := List.forall_mem_cons.1 hvs
    rw [createAll]
    cases hcreate : s.createVector v with
    | ok s' => exact ih (h.createVector hv hcreate) hrest
    | error fault => exact h

theorem addVectors_captioned (h : w.scene.Captioned) {vs : List Scene.Vector}
    (hvs : ∀ v ∈ vs, v.Captioned) : (w.addVectors vs).2.scene.Captioned := by
  have hall := createAll_captioned h hvs
  unfold addVectors
  cases clash? w.scene [] vs with
  | some name => exact h
  | none =>
    cases hcreate : createAll vs w.scene with
    | mk result s =>
      rw [hcreate] at hall
      cases result with
      | error fault => exact hall
      | ok _ =>
        cases vs.isEmpty with
        | true => exact hall
        | false => exact { hall with }

theorem nameResults_captioned (sketches : List Sketch) (w : Workspace) :
    ∀ v ∈ (nameResults sketches w).1, v.Captioned := by
  induction sketches generalizing w with
  | nil => simp [nameResults]
  | cons sketch rest ih =>
    simp only [nameResults, List.forall_mem_cons]
    exact ⟨Vector.captioned_draw _ _ _ _ _, ih _⟩

theorem nameRandoms_captioned (length : Float) (unit : Bool) (mode : RenderMode) (count : Nat)
    (w : Workspace) : ∀ v ∈ (nameRandoms length unit mode count w).1, v.Captioned := by
  induction count generalizing w with
  | zero => simp [nameRandoms]
  | succ count ih =>
    simp only [nameRandoms, List.forall_mem_cons]
    exact ⟨Vector.captioned_build _ _ _ _ _, ih _⟩

theorem layout_captioned : ∀ v ∈ layout, v.Captioned := by
  simp only [layout, List.forall_mem_cons]
  exact ⟨Vector.captioned_build _ _ _ _ _, Vector.captioned_build _ _ _ _ _,
    Vector.captioned_build _ _ _ _ _, Vector.captioned_build _ _ _ _ _, by simp⟩

theorem Spared.captioned {w' : Workspace} (hspared : w.Spared w') (h : w.scene.Captioned) :
    w'.scene.Captioned := by
  rw [hspared.scene]
  exact { h with }

end Workspace

/-- **A change** keeps it so that labels are empty only where the name is. -/
theorem Change.captioned {w : Workspace} (h : w.scene.Captioned) (change : Change) :
    (change.run w).2.scene.Captioned := by
  have hcount : w.scene.nextResultName.2.Captioned := { h with }
  cases change with
  | resultVector sketch =>
    exact Workspace.addVector_captioned (w := { w with scene := w.scene.nextResultName.2 }) hcount _
      sketch
  | resultVectors sketches =>
    have hnamed := (Workspace.nameResults_spared sketches w).captioned h
    exact Workspace.addVectors_captioned hnamed (Workspace.nameResults_captioned sketches w)
  | randomVectors count length unit mode =>
    have hnamed := (Workspace.nameRandoms_spared length unit mode count w).captioned h
    exact Workspace.addVectors_captioned hnamed
      (Workspace.nameRandoms_captioned length unit mode count w)
  | resultMatrix transform =>
    exact Workspace.addMatrix_captioned (w := { w with scene := w.scene.nextResultName.2 }) hcount _
      transform
  | newVector name sketch => exact Workspace.addVector_captioned h name sketch
  | newMatrix name transform => exact Workspace.addMatrix_captioned h name transform
  | putMatrix name transform =>
    have hbuilt := Matrix.captioned_build name transform {}
    refine Workspace.finish_captioned h (fun s hs => ?_) _
    split at hs
    · exact h.replaceMatrix hbuilt hs
    · exact h.createMatrix hbuilt hs
  | replaceVector key name sketch menu =>
    simp only [run]
    cases hreplace : w.scene.replaceVector key (sketch.draw name w.draws).1 with
    | error fault => exact h
    | ok s =>
      have hs := h.replaceVector (Vector.captioned_draw name _ _ _ _) hreplace
      cases menu with
      | true => exact { hs with }
      | false => exact hs
  | replaceMatrix key name transform options =>
    exact Workspace.finish_captioned h
      (fun _ => h.replaceMatrix (Matrix.captioned_build name transform options)) _
  | destroyVector key =>
    simp only [run]
    split
    · rename_i hgone
      have hs := h.destroyVector hgone
      exact { hs with }
    · exact h
  | destroyMatrix key =>
    simp only [run]
    split
    · rename_i hgone
      have hs := h.destroyMatrix hgone
      exact { hs with }
    · exact h
  | showVector key visible =>
    simp only [run]
    split
    · rename_i hshown
      have hs := h.showVector hshown
      exact { hs with }
    · exact h
  | showMatrix key visible =>
    simp only [run]
    split
    · rename_i hshown
      have hs := h.showMatrix hshown
      exact { hs with }
    · exact h
  | clear => exact h.clear
  | reset =>
    have hlayout := Workspace.createAll_captioned h.clear Workspace.layout_captioned
    simp only [run]
    split
    · rename_i hcreate
      rw [hcreate] at hlayout
      exact hlayout
    · rename_i hcreate
      rw [hcreate] at hlayout
      exact hlayout
  | camera c result => exact { h with }
  | settings s result => exact { h with }

/-! ### Colors -/

/-- **The colors that the change of a plan chooses** are of some kind, if colors of 24 bits are and
those of the scene are. -/
theorem Call.Settles.colored {C : Color → Prop} (hlimit : ∀ c ≤ Color.limit, C c) {c : Call}
    {e : Engine} {b : Builtin} {plan : Plan} (h : c.Settles e b plan)
    (he : e.workspace.Alike C e.workspace) : ∀ k ∈ plan.changes, k.Colored C := by
  have hview := Engine.builtinView_alike he
  rcases Builtin.plain_or_composite hlimit h.mem with hplain | hcomposite | rfl
  · have hlike := hplain hview c.args.present
    rw [h.plan] at hlike
    cases hlike with
    | ok hlike =>
      cases hlike with
      | change hcolored => exact List.forall_mem_singleton.2 hcolored
      | reset forgets _ => exact List.forall_mem_singleton.2 trivial
      | answer _ _ => exact List.forall_mem_nil _
      | forget _ _ => exact List.forall_mem_nil _
  -- composites and lists leave all changes to other commands
  · rcases Builtin.composite_plan hcomposite hview c.args.present with ⟨fault, herror⟩ |
      ⟨t, ht, targs, hdelegate⟩
    · rw [h.plan] at herror
      cases herror
    · rw [h.plan] at hdelegate
      cases hdelegate
      exact List.forall_mem_nil _
  · obtain rfl := Builtin.runJsonCommandList_calls h.name.symm _ plan h.plan
    exact List.forall_mem_nil _

/-! ### Calls -/

/-- A scene of which the colors have 24 bits and the labels are empty only where the name is, with a
stream that colors of 24 bits can be drawn from. -/
structure Workspace.Tidy (w : Workspace) : Prop where
  alike : w.Alike (fun c => c ≤ Color.limit) w
  draws : Drawable (fun c => c ≤ Color.limit) w.draws
  captioned : w.scene.Captioned

/-- A change keeps a scene tidy if it chooses colors of 24 bits. -/
theorem Change.tidy {w : Workspace} (h : w.Tidy) {change : Change}
    (hcolored : change.Colored fun c => c ≤ Color.limit) : (change.run w).2.Tidy where
  alike := (change.run_alike h.alike (fun _ hc => hc) h.draws hcolored).2
  draws := h.draws.later (change.run_later w)
  captioned := change.captioned h.captioned

namespace Engine

/-- **A call** keeps a scene tidy, whatever comes of it. -/
theorem call_tidy (surface : Bool) (c : Call) (e : Engine) (he : e.workspace.Tidy) :
    (e.call Table.builtin surface c).2.workspace.Tidy := by
  refine call_relates (R := fun w w' => w.Tidy → w'.Tidy) (fun _ h => h)
    (fun hfirst hsecond h => hsecond (hfirst h)) ?_ surface c e he
  intro c e b plan hsettles k hk he
  exact Change.tidy he (hsettles.colored (fun _ hc => hc) he.alike k hk)

/-- So do calls one after another. -/
theorem callAll_tidy (calls : List (Bool × Call)) (e : Engine) (he : e.workspace.Tidy) :
    (e.callAll calls).workspace.Tidy :=
  callAll_relates (R := fun w w' => w.Tidy → w'.Tidy) (fun _ h => h)
    (fun hfirst hsecond h => hsecond (hfirst h)) call_tidy calls e he

end Engine

end VectorScene.Command
