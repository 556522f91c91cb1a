import VectorScene.Proofs.Command.Copies

/-!
# Composites behind the commands that they ran

After the command that a composite runs, the composite itself comes to a result and changes nothing
but handles. For five of the six the command is an edit, which is the same in every scene; the sixth
makes a copy.

## Main results

* `Builtin.composite_edit`: composites that run an edit
* `Builtin.composite_again`: composites behind the command that they ran
-/

namespace VectorScene.Command

open Scene

variable {C : Color → Prop}

namespace Builtin

/-- A command that runs an edit, the same in every scene. -/
def RunsEdit (C : Color → Prop) (b : Builtin) : Prop :=
  ∀ ⦃view args plan⦄, b.plan view args = .ok plan →
    ∃ t ∈ targets, ∃ targs, t.Repeats C targs.present ∧
      ∀ view', b.plan view' args = .ok (.delegate ⟨t.definition.name, targs⟩)

theorem composite_edit (hlimit : ∀ c ≤ Color.limit, C c) :
    ∀ b ∈ composites, b = duplicateVector ∨ b.RunsEdit C := by
  have hnone : ∀ {entries : List (String × Value)} {name : String},
      (entries.map (·.1)).Nodup → entries.lookup name = none →
      (Args.ofList entries).present.get? name = none := by
    intro entries name hnodup hname
    rw [Args.get?_present, Args.get?_ofList hnodup, hname]
    rfl
  simp only [composites, List.forall_mem_cons]
  refine ⟨.inl trivial, .inr ?_, .inr ?_, .inr ?_, .inr ?_, .inr ?_, by simp⟩
  all_goals
    intro view args plan hplan
    obtain ⟨first, -, h⟩ := ok_of_bind hplan
    obtain ⟨second, -, h⟩ := ok_of_bind h
    cases h
  -- a new name, a render mode, a label with its being shown, the latter alone; a name of a matrix
  · refine ⟨updateVector, by simp [targets], _, ?_, fun _ => hplan⟩
    exact updateVector_repeats hlimit (.inr (hnone (by simp) rfl))
  · refine ⟨updateVector, by simp [targets], _, ?_, fun _ => hplan⟩
    exact updateVector_repeats hlimit (.inl (hnone (by simp) rfl))
  · refine ⟨updateVector, by simp [targets], _, ?_, fun _ => hplan⟩
    exact updateVector_repeats hlimit (.inl (hnone (by simp) rfl))
  · refine ⟨updateVector, by simp [targets], _, ?_, fun _ => hplan⟩
    exact updateVector_repeats hlimit (.inl (hnone (by simp) rfl))
  · refine ⟨updateMatrix, by simp [targets], _, ?_, fun _ => hplan⟩
    exact updateMatrix_repeats (.inr (hnone (by simp) rfl))

/-- **Behind the command that it ran**, a composite comes to a result, and changes nothing but
handles. -/
theorem composite_again (hC : ∀ c, C c ↔ c ≤ Color.limit) {b : Builtin} (hb : b ∈ composites)
    {e e' : Engine} (he : e.workspace.Alike C e.workspace)
    (he' : e'.workspace.Alike C e'.workspace) {args : Args} {c : Call}
    (hplan : b.plan e.builtinView args = .ok (.delegate c)) {depth : Nat} {result : Value}
    (hinner : dispatch Table.builtin (depth + 1) false c e = (.ok result, e')) (depth' : Nat) :
    Settled (b.settle (depth' + 1) args e').1 ∧
      e'.workspace.Alike C (b.settle (depth' + 1) args e').2.workspace := by
  rcases composite_edit (fun c hc => (hC c).2 hc) b hb with rfl | hedit
  · exact duplicateVector_again (fun c hc => (hC c).1 hc) he he' hplan hinner depth'
  · obtain ⟨t, ht, targs, hrepeats, hplans⟩ := hedit hplan
    obtain rfl : c = ⟨t.definition.name, targs⟩ := by
      have hsame := (hplans e.builtinView).symm.trans hplan
      cases hsame
      rfl
    have htarget : Table.builtin.get? (Call.mk t.definition.name targs).name = some t.command :=
      Table.builtin_get?_target t ht
    obtain ⟨hv, hsettled, hworkspace, -⟩ := dispatch_ok htarget hinner
    rw [settle, hplans]
    simp only [Plan.perform_delegate]
    rw [dispatch_builtin htarget, hv]
    -- the edit came to a result the first time, and so it does the second
    obtain ⟨hagain, halike⟩ := hrepeats he he' hsettled hworkspace depth'
    obtain ⟨v, hv⟩ := conclude_settled t.definition false targs.present
      (t.settle depth' targs.present e').2 hagain
    simp only [hv, conclude_workspace]
    exact ⟨.ok v, halike⟩

end Builtin

end VectorScene.Command
