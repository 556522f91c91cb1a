import VectorScene.Proofs.Scene.Likeness

/-!
# Labels, and entities that are built again

Options that are read off an entity leave nothing open but handles: so the entity that is built from
its name and them is the same one off the stage. There is one exception to that. An empty label
counts as one that is left open, and then the entity gets its name for a label. So what was said
holds of entities whose label is empty only if their name is.

All entities that are built are of that kind, and it does not get lost while they are in a registry.

## Main definitions

* `Vector.Captioned`, `Matrix.Captioned`: a label that is empty only if the name is
* `State.Captioned`: a scene with such entities only

## Main results

* `Vector.draw_options`, `Matrix.build_options`: entities that are built again
* `Matrix.enter_build_options`: the same on the stage, where matrices have arrows
* `State.Captioned.askVectors`, `State.Captioned.askMatrices`: one request
-/

namespace VectorScene.Scene

open VectorScene.Geometry

/-! ### Labels -/

namespace Vector

theorem eq_empty_of_labelOr {chosen : Option String} {name : String}
    (h : labelOr chosen name = "") : name = "" := by
  unfold labelOr at h
  split at h
  · split at h
    · exact h
    · rename_i hempty
      simp [h] at hempty
  · exact h

/-- A label that is not left open is kept. -/
theorem labelOr_some {label name : String} (h : label = "" → name = "") :
    labelOr (some label) name = label := by
  unfold labelOr
  simp only
  split
  · -- the name takes the place of the label, and is empty too
    rename_i hempty
    have hlabel : label = "" := by simpa using hempty
    rw [hlabel, h hlabel]
  · rfl

/-- The label is empty only if the name is. -/
def Captioned (v : Vector) : Prop := v.label = "" → v.name = ""

theorem captioned_build (name : String) (start tip : Point) (color : Color) (o : Options) :
    (build name start tip color o).Captioned := eq_empty_of_labelOr

theorem captioned_draw (name : String) (start tip : Point) (o : Options) (draws : Draws) :
    (draw name start tip o draws).1.Captioned := captioned_build name start tip _ o

theorem lasting_captioned : Lasting Captioned Captioned where
  enter v s hv := by
    show (v.enter s).1.Captioned
    rw [enter_eq]
    exact hv
  setVisible _ _ _ hv := hv

/-- **A vector that is built again** from its name, its points and its options is the same but for
the handle, and no random number is used up. -/
theorem draw_options {v : Vector} (h : v.Captioned) (draws : Draws) :
    draw v.name v.start v.tip v.options draws = (v.bare, draws) := by
  have hlabel : labelOr (some v.label) v.name = v.label := labelOr_some h
  simp only [draw, Options.colorFrom, options, build, Option.getD_some, hlabel]
  rfl

end Vector

namespace Matrix

/-- The label is empty only if the name is. -/
def Captioned (m : Matrix) : Prop := m.label = "" → m.name = ""

theorem captioned_build (name : String) (transform : Transform) (o : Options) :
    (build name transform o).Captioned := Vector.eq_empty_of_labelOr

theorem lasting_captioned : Lasting Captioned Captioned where
  enter _ _ hm := hm
  setVisible _ _ _ hm := hm

/-- **A matrix that is built again** from its name, its rows and its options is the same but for
what it has on the stage. -/
theorem build_options {m : Matrix} (h : m.Captioned) :
    build m.name m.transform m.options = m.bare := by
  have hlabel : Vector.labelOr (some m.label) m.name = m.label := Vector.labelOr_some h
  simp only [build, options, Option.getD_some, hlabel]
  rfl

/-- On the stage it has the same arrows too, but for the handles. -/
theorem enter_build_options {m : Matrix} (h : m.Captioned) (hposed : m.Posed) (s : Stage) :
    (Entity.enter (build m.name m.transform m.options) s).1.detached = m.detached := by
  have hentered : (Entity.enter m.bare s).1.Posed := lasting_posed.enter m.bare s trivial
  rw [build_options h, detached_of_posed hentered, detached_of_posed hposed]
  rfl

end Matrix

/-! ### Registries and scenes -/

/-- Something is true of every entity of a registry, which is that of a roster. -/
def Registry.All {α : Type} [Entity α] (P : α → Prop) (r : Registry α) : Prop :=
  ∃ es, r.Lists es ∧ ∀ e ∈ es, P e

namespace Registry.All

variable {α : Type} [Entity α] {P Fit : α → Prop} {r : Registry α}

theorem empty (P : α → Prop) : (Registry.empty : Registry α).All P :=
  ⟨[], lists_empty, by simp⟩

theorem entities (h : r.All P) : ∀ e ∈ r.entities, P e := by
  obtain ⟨es, hlists, hes⟩ := h
  rw [hlists.entities_eq]
  exact hes

theorem answer (h : r.All P) (hP : Lasting Fit P) {request : Request α}
    (hfit : request.All Fit) (s : Stage) : (r.answer request s).2.1.All P := by
  obtain ⟨es, hlists, hes⟩ := h
  obtain ⟨-, hlists', -⟩ := hlists.answer request s
  exact ⟨_, hlists', Roster.answer_lasting hP hes request hfit s⟩

end Registry.All

namespace State

/-- No entity has an empty label and a name that is not empty. -/
structure Captioned (s : State) : Prop where
  vectors : s.vectors.All Vector.Captioned
  matrices : s.matrices.All Matrix.Captioned

namespace Captioned

variable {s t : State}

theorem empty : ({} : State).Captioned := ⟨.empty _, .empty _⟩

theorem askVectors (h : s.Captioned) {request : Request Vector}
    (hfit : request.All Vector.Captioned) : (s.askVectors request).Captioned :=
  { h with vectors := h.vectors.answer Vector.lasting_captioned hfit s.stage }

theorem askMatrices (h : s.Captioned) {request : Request Matrix}
    (hfit : request.All Matrix.Captioned) : (s.askMatrices request).Captioned :=
  { h with matrices := h.matrices.answer Matrix.lasting_captioned hfit s.stage }

theorem createVector (h : s.Captioned) {v : Vector} (hv : v.Captioned)
    (ht : s.createVector v = .ok t) : t.Captioned := by
  rw [createVector_eq] at ht
  split at ht
  · cases ht
  · cases ht
    exact h.askVectors hv

theorem replaceVector (h : s.Captioned) {key : String} {v : Vector} (hv : v.Captioned)
    (ht : s.replaceVector key v = .ok t) : t.Captioned := by
  obtain ⟨-, rfl⟩ := replaceVector_ok ht
  exact h.askVectors hv

theorem createMatrix (h : s.Captioned) {m : Matrix} (hm : m.Captioned)
    (ht : s.createMatrix m = .ok t) : t.Captioned := by
  rw [createMatrix_eq] at ht
  split at ht
  · cases ht
  · cases ht
    exact h.askMatrices hm

theorem replaceMatrix (h : s.Captioned) {key : String} {m : Matrix} (hm : m.Captioned)
    (ht : s.replaceMatrix key m = .ok t) : t.Captioned := by
  obtain ⟨-, rfl⟩ := replaceMatrix_ok ht
  exact h.askMatrices hm

theorem destroyVector (h : s.Captioned) {key : String} {v : Vector}
    (ht : s.destroyVector key = some (v, t)) : t.Captioned := by
  rw [destroyVector_eq] at ht
  obtain ⟨gone, -, hgone⟩ := Option.map_eq_some_iff.1 ht
  cases hgone
  exact h.askVectors trivial

theorem destroyMatrix (h : s.Captioned) {key : String} {m : Matrix}
    (ht : s.destroyMatrix key = some (m, t)) : t.Captioned := by
  rw [destroyMatrix_eq] at ht
  obtain ⟨gone, -, hgone⟩ := Option.map_eq_some_iff.1 ht
  cases hgone
  exact h.askMatrices trivial

theorem showVector (h : s.Captioned) {key : String} {visible : Bool}
    (ht : s.showVector key visible = some t) : t.Captioned := by
  rw [showVector_eq] at ht
  split at ht
  · cases ht
    exact h.askVectors trivial
  · cases ht

theorem showMatrix (h : s.Captioned) {key : String} {visible : Bool}
    (ht : s.showMatrix key visible = some t) : t.Captioned := by
  rw [showMatrix_eq] at ht
  split at ht
  · cases ht
    exact h.askMatrices trivial
  · cases ht

theorem clear (h : s.Captioned) : s.clear.Captioned := by
  have hvectors : (s.askVectors .clear).Captioned := h.askVectors trivial
  have hclear : ((s.askVectors .clear).askMatrices .clear).Captioned := hvectors.askMatrices trivial
  rw [clear_eq]
  exact { hclear with }

end Captioned

end State

end VectorScene.Scene
