import VectorScene.Proofs.Command.Failure

/-!
# Calls on like scenes

Two engines whose scenes are alike, and which see the same random numbers, cannot be told apart by
calls: a call that fails in one fails in the other for the same reason, and the scenes stay alike.
Neither the history nor what is shown has any part in it.

## Main definitions

* `SameOutcome`: both calls fail for the same reason, or none; the scenes are alike

## Main results

* `Builtin.Plain.settle_alike`, `Builtin.composite_settle_alike`: a command that runs no other one,
  and one that does
* `dispatch_alike`: every built-in command but the one for command lists
-/

namespace VectorScene.Command

open Scene

variable {C : Color → Prop}

/-- Both calls fail, for the same reason, or none does; and the scenes are alike afterwards. -/
structure SameOutcome (C : Color → Prop) (x x' : Except Error Value × Engine) : Prop where
  result : Agree (fun _ _ => True) x.1 x'.1
  workspace : x.2.workspace.Alike C x'.2.workspace

theorem Engine.builtinView_alike {e e' : Engine} (h : e.workspace.Alike C e'.workspace) :
    e.builtinView.Alike C e'.builtinView := ⟨h.scene, rfl⟩

theorem Plan.perform_change_alike (hlimit : ∀ c ≤ Color.limit, C c) {e e' : Engine}
    (h : e.workspace.Alike C e'.workspace) (hdraws : Drawable C e.draws) {c : Change}
    (hc : c.Colored C) (depth depth' : Nat) :
    SameOutcome C ((Plan.change c).perform depth e) ((Plan.change c).perform depth' e') := by
  obtain ⟨hresult, hworkspace⟩ := Change.run_alike h hlimit hdraws hc
  rw [Plan.perform_change, Plan.perform_change, hresult]
  refine ⟨?_, hworkspace⟩
  cases (c.run e'.workspace).1 with
  | ok v => exact .ok trivial
  | error fault => exact .error _

/-- **A plain command** comes to the same outcome in like scenes. -/
theorem Builtin.Plain.settle_alike (hlimit : ∀ c ≤ Color.limit, C c) {b : Builtin}
    (hb : b.Plain C) {e e' : Engine} (h : e.workspace.Alike C e'.workspace)
    (hdraws : Drawable C e.draws) (depth depth' : Nat) (args : Args) :
    SameOutcome C (b.settle depth args e) (b.settle depth' args e') := by
  have hplan := hb (Engine.builtinView_alike h) args
  unfold Builtin.settle
  generalize b.plan e.builtinView args = x, b.plan e'.builtinView args = x' at hplan ⊢
  cases hplan with
  | error fault => exact ⟨.error fault, h⟩
  | ok hlike =>
    cases hlike with
    | answer _ _ => exact ⟨.ok trivial, h⟩
    | change hc => exact Plan.perform_change_alike hlimit h hdraws hc depth depth'
    | forget _ _ => exact ⟨.ok trivial, h⟩
    | reset forgets _ =>
      -- whether the history is cleared makes no difference to the scene
      simp only [Plan.perform_reset]
      have hreset : Change.reset.Colored C := trivial
      refine Plan.perform_change_alike hlimit ?_ ?_ hreset depth depth'
      · cases forgets <;> exact h
      · cases forgets <;> exact hdraws

theorem conclude_alike {x x' : Except Error Value × Engine} (h : SameOutcome C x x')
    (d : Definition) (surface surface' : Bool) (args : Args) :
    SameOutcome C (conclude d surface args x.1 x.2) (conclude d surface' args x'.1 x'.2) := by
  refine ⟨?_, ?_⟩
  · obtain ⟨hresult, -⟩ := h
    generalize x.1 = r, x'.1 = r' at hresult ⊢
    cases hresult with
    | ok _ => exact .ok trivial
    | error fault =>
      cases hl : fault.lookup? with
      | none =>
        rw [conclude_fault _ _ _ hl, conclude_fault _ _ _ hl]
        exact .error fault
      | some lookup =>
        rw [conclude_lookup _ _ _ hl, conclude_lookup _ _ _ hl]
        exact .ok trivial
  · rw [conclude_workspace, conclude_workspace]
    exact h.workspace

/-- A call is as alike as what its command does. -/
theorem dispatch_builtin_alike {b : Builtin} {c : Call}
    (hget : Table.builtin.get? c.name = some b.command) {e e' : Engine}
    (h : e.workspace.Alike C e'.workspace) {depth depth' : Nat}
    (hsettle : ∀ args, SameOutcome C (b.settle depth args e) (b.settle depth' args e'))
    (surface surface' : Bool) :
    SameOutcome C (dispatch Table.builtin (depth + 1) surface c e)
      (dispatch Table.builtin (depth' + 1) surface' c e') := by
  rw [dispatch_builtin hget, dispatch_builtin hget]
  cases c.args.validate b.definition.parameters with
  | error fault => exact ⟨.error fault, h⟩
  | ok args => exact conclude_alike (hsettle args) b.definition surface surface' args

/-- Composites run the same command in like scenes, and that one is plain. -/
theorem Builtin.composite_settle_alike (hlimit : ∀ c ≤ Color.limit, C c) {b : Builtin}
    (hb : b ∈ composites) {e e' : Engine} (h : e.workspace.Alike C e'.workspace)
    (hdraws : Drawable C e.draws) (depth depth' : Nat) (args : Args) :
    SameOutcome C (b.settle (depth + 1) args e) (b.settle (depth' + 1) args e') := by
  have hplan := delegates b hb (Engine.builtinView_alike h) args
  unfold settle
  generalize b.plan e.builtinView args = x, b.plan e'.builtinView args = x' at hplan ⊢
  cases hplan with
  | error fault => exact ⟨.error fault, h⟩
  | ok hdelegates =>
    obtain ⟨t, ht, targs, rfl, rfl⟩ := hdelegates
    have htarget : Table.builtin.get? (Call.mk t.definition.name targs).name = some t.command :=
      Table.builtin_get?_target t ht
    exact dispatch_builtin_alike htarget h
      ((targets_plain hlimit t ht).settle_alike hlimit h hdraws depth depth') false false

/-- **A call** comes to the same outcome in like scenes, however deep it may nest others. -/
theorem dispatch_alike (hlimit : ∀ c ≤ Color.limit, C c) {c : Call}
    (hc : c.name ≠ "runJsonCommandList") {e e' : Engine} (h : e.workspace.Alike C e'.workspace)
    (hdraws : Drawable C e.draws) (depth depth' : Nat) (surface surface' : Bool) :
    SameOutcome C (dispatch Table.builtin (depth + 2) surface c e)
      (dispatch Table.builtin (depth' + 2) surface' c e') := by
  cases hget : Table.builtin.get? c.name with
  | none =>
    rw [dispatch_unknown hget, dispatch_unknown hget]
    exact ⟨.ok trivial, h⟩
  | some command =>
    obtain ⟨b, hb, rfl, hname⟩ := Table.builtin_get? hget
    rcases Builtin.plain_or_composite hlimit hb with hplain | hcomposite | rfl
    · have hsettle := hplain.settle_alike hlimit h hdraws (depth + 1) (depth' + 1)
      exact dispatch_builtin_alike hget h hsettle surface surface'
    · have hsettle := Builtin.composite_settle_alike hlimit hcomposite h hdraws depth depth'
      exact dispatch_builtin_alike hget h hsettle surface surface'
    · exact absurd hname.symm hc

end VectorScene.Command
