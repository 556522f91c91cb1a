import VectorScene.Proofs.Scene.Likeness

/-!
# Registries that grow

A registry grows by entities that are created one after another. Nothing else of it changes: the
entities from before keep their names, their places and every field, and taking the new ones away
again, in any state of the stage, gives back the very registry.

## Main definitions

* `Registry.Grown`: a registry with entities behind those of another one

## Main results

* `State.resultName_injective`, `State.randomName_injective`: generated names differ
* `Registry.Lists.create_grown`: an entity that is created
* `Registry.Grown.entities_eq`: the entities of a registry that has grown
* `Registry.Grown.destroy_first`: the first new entity is taken away
* `State.createVector_grown`, `State.destroyVector_grown` and the same for matrices: the scene
-/

namespace VectorScene.Scene

/-! ### Generated names -/

theorem toString_nat_injective : Function.Injective (toString : Nat → String) := by
  intro m n h
  have hdigits : Nat.toDigits 10 m = Nat.toDigits 10 n := by
    have hchars := congrArg String.toList h
    simpa [toString, Nat.repr_eq_ofList_toDigits] using hchars
  -- the number can be read off its digits
  rw [← @Nat.ofDigitChars_ten_toDigits m, hdigits, Nat.ofDigitChars_ten_toDigits]

namespace State

theorem resultName_injective : Function.Injective resultName := by
  intro m n h
  simp only [resultName, String.append_right_inj] at h
  exact toString_nat_injective h

theorem randomName_injective : Function.Injective randomName := by
  intro m n h
  simp only [randomName, String.append_right_inj] at h
  exact toString_nat_injective h

end State

/-! ### Registries -/

namespace Registry

variable {α : Type} [Entity α]

/-- A registry with entities behind those of another one. -/
structure Grown (r : Registry α) (added : List α) (r' : Registry α) : Prop where
  stored : r'.stored = (added.map Roster.entry).reverse ++ r.stored
  order : r'.order = r.order ++ Roster.names added

namespace Grown

variable {r r' r'' : Registry α} {es added added' : List α}

theorem refl (r : Registry α) : r.Grown [] r :=
  ⟨rfl, (List.append_nil _).symm⟩

theorem trans (h : r.Grown added r') (h' : r'.Grown added' r'') :
    r.Grown (added ++ added') r'' where
  stored := by
    rw [h'.stored, h.stored, List.map_append, List.reverse_append, List.append_assoc]
  order := by
    rw [h'.order, h.order, Roster.names, Roster.names, Roster.names, List.map_append,
      List.append_assoc]

/-- A registry that has grown by nothing is the same. -/
theorem eq_of_nil (h : r.Grown [] r') : r' = r := by
  cases r'
  cases r
  simpa [Roster.names] using And.intro h.stored h.order

/-- The roster of a registry that has grown. -/
theorem lists (h : r.Grown added r') (hr : r.Lists es)
    (hnodup : (Roster.names (es ++ added)).Nodup) : r'.Lists (es ++ added) where
  order := by
    rw [h.order, hr.order, Roster.names, Roster.names, Roster.names, List.map_append]
  stored := by
    rw [h.stored, List.map_append]
    -- the new entities are stored in front, the last one first
    refine List.perm_append_comm.trans ?_
    exact hr.stored.append (List.reverse_perm _)
  nodup := hnodup

/-- The names are those from before and the new ones behind them. -/
theorem names_eq (h : r.Grown added r') : r'.names = r.names ++ Roster.names added := h.order

/-- **The entities from before** are in their places, with the new ones behind them. -/
theorem entities_eq (h : r.Grown added r') (hr : r.Lists es)
    (hnodup : (Roster.names (es ++ added)).Nodup) : r'.entities = r.entities ++ added := by
  rw [(h.lists hr hnodup).entities_eq, hr.entities_eq]

/-- **The first new entity** is taken away, and the registry has grown by the others. -/
theorem destroy_first {e : α} (h : r.Grown (e :: added) r') (hr : r.Lists es)
    (hnodup : (Roster.names (es ++ e :: added)).Nodup)
    (hname : ∀ rest, (Entity.name e).toList ≠ '$' :: rest) (s : Stage) :
    ∃ r'', r'.destroy (Entity.name e) s = some ((Entity.leave e s).1, r'', (Entity.leave e s).2) ∧
      r.Grown added r'' := by
  have hlists := h.lists hr hnodup
  have hmem : e ∈ es ++ e :: added := by simp
  have hnamed : r'.named? (Entity.name e) = some e := hlists.named?_name hmem
  have hresolve : r'.resolve (Entity.name e) = some (Entity.name e) := by
    unfold resolve
    split
    · exact absurd ‹_› (hname _)
    · simp [hnamed]
  obtain ⟨hother, -⟩ := Roster.nodup_split_iff.1 hnodup
  have hold : Entity.name e ∉ Roster.names es := fun hin =>
    hother (by simpa [Roster.names] using Or.inl (List.mem_map.1 hin))
  have hnew : Entity.name e ∉ Roster.names added := fun hin =>
    hother (by simpa [Roster.names] using Or.inr (List.mem_map.1 hin))
  refine ⟨⟨without r'.stored (Entity.name e), r'.order.erase (Entity.name e)⟩, ?_, ?_, ?_⟩
  · simp [destroy, hresolve, hnamed]
  · -- of what is stored only the entry of this entity has the name
    have hkeep : ∀ p ∈ (added.map Roster.entry).reverse ++ r.stored,
        (p.1 != Entity.name e) = true := by
      intro p hp
      rw [bne_iff_ne]
      rintro heq
      rcases List.mem_append.1 hp with hp | hp
      · obtain ⟨x, hx, rfl⟩ := List.mem_map.1 (List.mem_reverse.1 hp)
        exact hnew (heq ▸ List.mem_map_of_mem hx)
      · have hkey := List.mem_map_of_mem (f := (·.1)) (hr.stored.mem_iff.1 hp)
        rw [Roster.map_entry_fst] at hkey
        exact hold (heq ▸ hkey)
    have hfilter := List.filter_eq_self.2 hkeep
    simp only [h.stored, without, List.map_cons, List.reverse_cons, List.filter_append] at hfilter ⊢
    simpa [Roster.entry] using hfilter
  · show r'.order.erase (Entity.name e) = r.order ++ Roster.names added
    rw [h.order, hr.order, List.erase_append_right _ hold]
    congr 1
    exact List.erase_cons_head _ _

end Grown

/-- **An entity that is created** makes the registry grow by what enters the stage. -/
theorem Lists.create_grown {r : Registry α} {es : List α} (h : r.Lists es) {e : α}
    (he : Entity.name e ∉ Roster.names es) (s : Stage) :
    ∃ r', r.create e s = .ok (r', (Entity.enter e s).2) ∧ r.Grown [(Entity.enter e s).1] r' := by
  have hnot : ¬(r.named? (Entity.name e)).isSome := fun hs => he (h.named?_isSome_iff.1 hs)
  refine ⟨⟨(Entity.name e, (Entity.enter e s).1) :: r.stored, r.order ++ [Entity.name e]⟩, ?_, ?_⟩
  · simp [create, hnot]
  · constructor <;> simp [Roster.entry, Roster.names]

end Registry

/-! ### The scene -/

namespace State

variable {s : State}

theorem createVector_grown {vs : List Vector} (h : s.vectors.Lists vs) {v : Vector}
    (hv : v.name ∉ Roster.names vs) :
    ∃ r t, s.createVector v = .ok { s with vectors := r, stage := t } ∧
      s.vectors.Grown [(Entity.enter v s.stage).1] r := by
  obtain ⟨r, hcreate, hgrown⟩ := h.create_grown hv s.stage
  refine ⟨r, (Entity.enter v s.stage).2, ?_, hgrown⟩
  simp only [createVector, hcreate]
  rfl

theorem createMatrix_grown {ms : List Matrix} (h : s.matrices.Lists ms) {m : Matrix}
    (hm : m.name ∉ Roster.names ms) :
    ∃ r t, s.createMatrix m = .ok { s with matrices := r, stage := t } ∧
      s.matrices.Grown [(Entity.enter m s.stage).1] r := by
  obtain ⟨r, hcreate, hgrown⟩ := h.create_grown hm s.stage
  refine ⟨r, (Entity.enter m s.stage).2, ?_, hgrown⟩
  simp only [createMatrix, hcreate]
  rfl

theorem createVector_taken {vs : List Vector} (h : s.vectors.Lists vs) {v : Vector}
    (hv : v.name ∈ Roster.names vs) :
    s.createVector v = .error (.duplicateName .vector v.name) := by
  have hcreate := h.create_taken hv s.stage
  simp only [createVector, hcreate]
  rfl

theorem createMatrix_taken {ms : List Matrix} (h : s.matrices.Lists ms) {m : Matrix}
    (hm : m.name ∈ Roster.names ms) :
    s.createMatrix m = .error (.duplicateName .matrix m.name) := by
  have hcreate := h.create_taken hm s.stage
  simp only [createMatrix, hcreate]
  rfl

theorem destroyVector_grown {r : Registry Vector} {vs added : List Vector} {v : Vector}
    (h : r.Grown (v :: added) s.vectors) (hr : r.Lists vs)
    (hnodup : (Roster.names (vs ++ v :: added)).Nodup)
    (hname : ∀ rest, v.name.toList ≠ '$' :: rest) :
    ∃ v' r' t, s.destroyVector v.name = some (v', { s with vectors := r', stage := t }) ∧
      r.Grown added r' := by
  obtain ⟨r', hdestroy, hgrown⟩ := h.destroy_first hr hnodup hname s.stage
  refine ⟨(Entity.leave v s.stage).1, r', (Entity.leave v s.stage).2, ?_, hgrown⟩
  have hdestroy : s.vectors.destroy v.name s.stage = some ((Entity.leave v s.stage).1, r',
      (Entity.leave v s.stage).2) := hdestroy
  simp only [destroyVector, hdestroy]
  rfl

theorem destroyMatrix_grown {r : Registry Matrix} {ms added : List Matrix} {m : Matrix}
    (h : r.Grown (m :: added) s.matrices) (hr : r.Lists ms)
    (hnodup : (Roster.names (ms ++ m :: added)).Nodup)
    (hname : ∀ rest, m.name.toList ≠ '$' :: rest) :
    ∃ m' r' t, s.destroyMatrix m.name = some (m', { s with matrices := r', stage := t }) ∧
      r.Grown added r' := by
  obtain ⟨r', hdestroy, hgrown⟩ := h.destroy_first hr hnodup hname s.stage
  refine ⟨(Entity.leave m s.stage).1, r', (Entity.leave m s.stage).2, ?_, hgrown⟩
  have hdestroy : s.matrices.destroy m.name s.stage = some ((Entity.leave m s.stage).1, r',
      (Entity.leave m s.stage).2) := hdestroy
  simp only [destroyMatrix, hdestroy]
  rfl

end State

end VectorScene.Scene
