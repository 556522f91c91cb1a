import VectorScene.Proofs.Command.Runs

/-!
# Kinds of changes

Almost all commands settle on changes of a common kind: they ask for a new menu whenever they
succeed, or leave the entities alone, and they leave the settings alone. Three commands are
exceptions: one puts a vector in the place of another without a new menu, and two change the
settings.

## Main definitions

* `Change.Common`: the changes of the common kind
* `Plan.Makes`: a plan whose change, if it makes one, is of some kind

## Main results

* `Builtin.all_common`: every built-in command but three
-/

namespace VectorScene.Command

open Scene

/-- A change that leaves the settings alone, and puts no vector in the place of another without a
new menu. -/
def Change.Common : Change → Prop
  | replaceVector _ _ _ false => False
  | settings _ _ => False
  | _ => True

/-- A plan whose change, if it makes one, is of some kind. -/
def Plan.Makes (P : Change → Prop) (plan : Plan) : Prop := ∀ k ∈ plan.changes, P k

namespace Builtin

section Makes

variable {P : Change → Prop}

theorem makes_change {change : Change} (h : P change) :
    Gives (Plan.Makes P) (.ok (.change change) : Except Error Plan) := by
  rintro _ ⟨⟩
  exact List.forall_mem_singleton.2 h

theorem makes_idle {plan : Plan} (h : plan.changes = []) :
    Gives (Plan.Makes P) (.ok plan : Except Error Plan) := by
  rintro _ ⟨⟩ k hk
  rw [h] at hk
  cases hk

theorem makes_throw {fault : Error} :
    Gives (Plan.Makes P) (throw fault : Except Error Plan) := by
  rintro _ ⟨⟩

end Makes

theorem common_reset (forgets : Bool) :
    Gives (Plan.Makes Change.Common) (.ok (.reset forgets) : Except Error Plan) := by
  rintro _ ⟨⟩
  exact List.forall_mem_singleton.2 trivial

/-! ### Families of commands -/

theorem common_vectorMath : ∀ b ∈ vectorMathCommands, b = normalizeVector ∨
    ∀ view args, Gives (Plan.Makes Change.Common) (b.plan view args) := by
  simp only [vectorMathCommands, List.forall_mem_cons]
  refine ⟨.inl trivial, .inr ?_, .inr ?_, .inr ?_, .inr ?_, .inr ?_, .inr ?_, .inr ?_, .inr ?_,
    .inr ?_, .inr ?_, .inr ?_, .inr ?_, .inr ?_, .inr ?_, .inr ?_, by simp⟩
  all_goals
    intro view args
    repeat refine gives_bind fun _ => ?_
    try exact makes_change trivial
  -- the frame with a vector as its forward one
  split
  · exact makes_throw
  · exact makes_change trivial

theorem common_matrixMath : ∀ b ∈ matrixMathCommands,
    ∀ view args, Gives (Plan.Makes Change.Common) (b.plan view args) := by
  simp only [matrixMathCommands, List.forall_mem_cons]
  refine ⟨?_, ?_, ?_, ?_, ?_, ?_, ?_, ?_, ?_, ?_, by simp⟩
  all_goals
    intro view args
    repeat refine gives_bind fun _ => ?_
    try exact makes_change trivial
  -- the inverse
  split
  · exact makes_change trivial
  · exact makes_throw

theorem common_entities : ∀ b ∈ entitiesCommands,
    ∀ view args, Gives (Plan.Makes Change.Common) (b.plan view args) := by
  simp only [entitiesCommands, List.forall_mem_cons]
  refine ⟨?_, ?_, ?_, ?_, ?_, ?_, ?_, ?_, ?_, ?_, ?_, ?_, ?_, ?_, ?_, ?_, ?_, ?_, ?_, ?_, ?_, ?_,
    ?_, ?_, by simp⟩
  all_goals
    intro view args
    repeat refine gives_bind fun _ => ?_
    try exact makes_idle rfl
    try exact makes_change trivial
  -- the matrix that looks along a vector, and the first layout
  · split
    · exact makes_throw
    · exact gives_bind fun _ => makes_change trivial
  · exact common_reset _

theorem common_editing : ∀ b ∈ editingCommands,
    ∀ view args, Gives (Plan.Makes Change.Common) (b.plan view args) := by
  simp only [editingCommands, List.forall_mem_cons]
  refine ⟨?_, ?_, ?_, ?_, ?_, ?_, ?_, by simp⟩
  all_goals
    intro view args
    repeat refine gives_bind fun _ => ?_
    first
      | exact makes_idle rfl
      | exact makes_change trivial

theorem common_appearance : ∀ b ∈ appearanceCommands, b = setSceneSetting ∨
    b = resetSceneSettings ∨
    ∀ view args, Gives (Plan.Makes Change.Common) (b.plan view args) := by
  simp only [appearanceCommands, List.forall_mem_cons]
  refine ⟨.inr (.inr ?_), .inr (.inr ?_), .inr (.inr ?_), .inl trivial, .inr (.inr ?_),
    .inr (.inl trivial), by simp⟩
  all_goals
    intro view args
    repeat refine gives_bind fun _ => ?_
    first
      | exact makes_idle rfl
      | exact makes_change trivial

theorem common_measuring : ∀ b ∈ measuringCommands,
    ∀ view args, Gives (Plan.Makes Change.Common) (b.plan view args) := by
  simp only [measuringCommands, List.forall_mem_cons]
  refine ⟨?_, ?_, ?_, ?_, ?_, by simp⟩
  all_goals
    intro view args
    repeat refine gives_bind fun _ => ?_
    try exact makes_idle rfl
  -- the angle between two vectors
  split
  · exact makes_idle rfl
  · refine gives_bind fun _ => ?_
    exact makes_idle rfl

theorem common_meta : ∀ b ∈ metaCommands,
    ∀ view args, Gives (Plan.Makes Change.Common) (b.plan view args) := by
  simp only [metaCommands, List.forall_mem_cons]
  refine ⟨?_, ?_, ?_, ?_, ?_, by simp⟩
  all_goals
    intro view args
    repeat refine gives_bind fun _ => ?_
    try exact makes_idle rfl
  -- a command list
  split
  · exact makes_idle rfl
  · exact makes_throw

/-- **Every built-in command** but three settles on changes of the common kind. -/
theorem all_common {b : Builtin} (hb : b ∈ Builtin.all) :
    b = normalizeVector ∨ b = setSceneSetting ∨ b = resetSceneSettings ∨
      ∀ view args, Gives (Plan.Makes Change.Common) (b.plan view args) := by
  have hcommon : (∀ view args, Gives (Plan.Makes Change.Common) (b.plan view args)) →
      b = normalizeVector ∨ b = setSceneSetting ∨ b = resetSceneSettings ∨
        ∀ view args, Gives (Plan.Makes Change.Common) (b.plan view args) :=
    fun h => .inr (.inr (.inr h))
  simp only [Builtin.all, List.mem_append] at hb
  rcases hb with (((((hb | hb) | hb) | hb) | hb) | hb) | hb
  · exact hcommon (common_meta b hb)
  · rcases common_vectorMath b hb with hnormalize | h
    · exact .inl hnormalize
    · exact hcommon h
  · exact hcommon (common_editing b hb)
  · exact hcommon (common_measuring b hb)
  · exact hcommon (common_matrixMath b hb)
  · exact hcommon (common_entities b hb)
  · exact .inr (common_appearance b hb)

end Builtin

end VectorScene.Command
