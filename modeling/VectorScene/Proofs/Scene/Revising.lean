import VectorScene.Proofs.Scene.Likeness

/-!
# Revising an entity twice

An entity is revised by a request that puts a changed copy in the place that its own name stands
for. The name may be a shortcut, so that the copy takes the place of another entity, and the key
that led to the entity may lead to another one afterwards. Still a second revision changes nothing
but handles, if changing a changed entity does nothing more.

## Main definitions

* `Revision`: a way of changing entities that does nothing more the second time

## Main results

* `Roster.revise_again`: what the second revision finds in the place of its copy
* `Registry.Alike.revise_again`: a registry after two revisions
-/

namespace VectorScene.Scene

open Outlined (bare)

variable {α : Type} [Entity α] [Outlined α]

/-- A way of changing entities that does not look at handles, and does nothing more to an entity
that has been changed. -/
structure Revision (f : α → α) : Prop where
  congr {e e' : α} : bare e = bare e' → bare (f e) = bare (f e')
  again (e : α) : bare (f (f e)) = bare (f e)

/-! ### Rosters -/

namespace Roster

omit [Outlined α]

variable {es : List α}

/-- A shortcut stands for the same place after an entity was replaced. -/
theorem place?_set {key : String} {rest : List Char} (hkey : key.toList = '$' :: rest) (i : Nat)
    (e : α) : place? (es.set i e) key = place? es key := by
  rw [place?_shortcut hkey, place?_shortcut hkey, List.length_set]

/-- The entity that a name stands for has the name. -/
theorem name_of_locate? {key : String} (hkey : ∀ rest, key.toList ≠ '$' :: rest) {i : Nat} {e : α}
    (h : locate? es key = some (i, e)) : Entity.name e = key := by
  obtain ⟨hplace, he⟩ := locate?_eq_some.1 h
  rw [place?_literal hkey] at hplace
  obtain ⟨hi, hname, -⟩ := List.findIdx?_eq_some_iff_getElem.1 hplace
  rw [List.getElem?_eq_getElem hi, Option.some.injEq] at he
  rw [← he]
  exact beq_iff_eq.1 hname

/-- Entities of one name are in one place. -/
theorem place_unique (hnodup : (names es).Nodup) {i j : Nat} {a b : α} (ha : es[i]? = some a)
    (hb : es[j]? = some b) (hname : Entity.name a = Entity.name b) : i = j := by
  have hi : (names es)[i]? = some (Entity.name a) := by
    rw [names, List.getElem?_map, ha]
    rfl
  have hj : (names es)[j]? = some (Entity.name a) := by
    rw [names, List.getElem?_map, hb, hname]
    rfl
  obtain ⟨hi', hi⟩ := List.getElem?_eq_some_iff.1 hi
  obtain ⟨hj', hj⟩ := List.getElem?_eq_some_iff.1 hj
  exact (hnodup.getElem_inj_iff).1 (hi.trans hj.symm)

/-- An entity in another place keeps its name from the new entity of a place. -/
theorem name_mem_eraseIdx {i j : Nat} (hij : i ≠ j) {e : α} (he : es[i]? = some e) :
    Entity.name e ∈ names (es.eraseIdx j) :=
  List.mem_map.2 ⟨e, List.mem_eraseIdx_iff_getElem?.2 ⟨i, hij, he⟩, rfl⟩

/-- What is known after a request to replace an entity that was granted. -/
theorem replace_granted {key : String} {e : α} {s : Stage}
    (h : (answer (.replace key e) es s).1.fault? = none) :
    ∃ j old t, locate? es key = some (j, old) ∧ Entity.name e ∉ names (es.eraseIdx j) ∧
      (answer (.replace key e) es s).2.1 = es.set j (Entity.enter e t).1 := by
  cases hl : locate? es key with
  | none => simp [answer, replace, hl, Answer.fault?] at h
  | some p =>
    obtain ⟨j, old⟩ := p
    by_cases hname : Entity.name e ∈ names (es.eraseIdx j)
    · simp [answer, replace, hl, hname, Answer.fault?] at h
    · exact ⟨j, old, (Entity.leave old s).2, rfl, hname, by simp [answer, replace, hl, hname]⟩

end Roster

section Again

variable {es : List α} {f : α → α} {key : String} {i j i' j' : Nat} {v w old v' old' : α}

/-- A key that is a shortcut leads to the same place again: to the copy, or to the same entity,
whose name is a shortcut for another place. -/
theorem Roster.revise_again_shortcut (hnodup : (names es).Nodup) (hw : bare w = bare (f v))
    (hagain : bare (f w) = bare w) {rest : List Char} (hkey : key.toList = '$' :: rest)
    (hv : locate? es key = some (i, v)) (hold : locate? es (Entity.name v) = some (j, old))
    (hv' : locate? (es.set j w) key = some (i', v'))
    (hold' : locate? (es.set j w) (Entity.name v') = some (j', old'))
    (hfree : Entity.name (f v') ∉ names ((es.set j w).eraseIdx j')) :
    bare old' = bare (f v') := by
  obtain ⟨hi, hvi⟩ := locate?_eq_some.1 hv
  obtain ⟨hj, holdj⟩ := locate?_eq_some.1 hold
  obtain ⟨hi', hvi'⟩ := locate?_eq_some.1 hv'
  obtain ⟨hj', holdj'⟩ := locate?_eq_some.1 hold'
  have hcopy : (es.set j w)[j]? = some w :=
    List.getElem?_set_self (List.getElem?_eq_some_iff.1 holdj).1
  rw [place?_set hkey, hi, Option.some.injEq] at hi'
  subst hi'
  by_cases hij : i = j
  · -- the copy stands where the key leads, and under its own name it can be put there only
    subst hij
    obtain rfl : w = v' := Option.some.inj (hcopy.symm.trans hvi')
    have hsame : i = j' := by
      by_contra hne
      exact hfree (Outlined.name_congr hagain ▸ name_mem_eraseIdx hne hcopy)
    subst hsame
    obtain rfl : w = old' := Option.some.inj (hcopy.symm.trans holdj')
    exact hagain.symm
  · -- the copy went to another place, so the name of the entity is not looked up as a name
    rw [List.getElem?_set_ne (Ne.symm hij), hvi, Option.some.injEq] at hvi'
    subst hvi'
    have hname : ∃ rest, (Entity.name v).toList = '$' :: rest := by
      by_contra hliteral
      have hsame := name_of_locate? (fun rest hrest => hliteral ⟨rest, hrest⟩) hold
      exact hij (place_unique hnodup hvi holdj hsame.symm)
    obtain ⟨rest, hrest⟩ := hname
    rw [place?_set hrest, hj, Option.some.injEq] at hj'
    subst hj'
    obtain rfl : w = old' := Option.some.inj (hcopy.symm.trans holdj')
    exact hw

/-- A key that is looked up as a name is the name of the entity before and after, so that it leads
to the copy. -/
theorem Roster.revise_again_literal (hnodup : (names es).Nodup) (hagain : bare (f w) = bare w)
    (hkey : ∀ rest, key.toList ≠ '$' :: rest) (hv : locate? es key = some (i, v))
    (hold : locate? es (Entity.name v) = some (j, old))
    (hv' : locate? (es.set j w) key = some (i', v'))
    (hold' : locate? (es.set j w) (Entity.name v') = some (j', old')) :
    bare old' = bare (f v') := by
  have hname := name_of_locate? hkey hv
  have hname' := name_of_locate? hkey hv'
  rw [hname, hv, Option.some.injEq, Prod.mk.injEq] at hold
  obtain ⟨rfl, rfl⟩ := hold
  rw [hname', hv', Option.some.injEq, Prod.mk.injEq] at hold'
  obtain ⟨rfl, rfl⟩ := hold'
  obtain ⟨-, hvi⟩ := locate?_eq_some.1 hv
  obtain ⟨-, hvi'⟩ := locate?_eq_some.1 hv'
  have hcopy : (es.set i w)[i]? = some w :=
    List.getElem?_set_self (List.getElem?_eq_some_iff.1 hvi).1
  have hsame : i = i' := by
    by_contra hne
    rw [List.getElem?_set_ne hne] at hvi'
    exact hne (place_unique hnodup hvi hvi' (hname.trans hname'.symm))
  subst hsame
  obtain rfl : w = v' := Option.some.inj (hcopy.symm.trans hvi')
  exact hagain.symm

/-- **What the second revision finds** in the place of its copy is already like the copy. -/
theorem Roster.revise_again (hnodup : (names es).Nodup) (hf : Revision f)
    (hv : locate? es key = some (i, v)) (hold : locate? es (Entity.name v) = some (j, old))
    (hw : bare w = bare (f v)) (hv' : locate? (es.set j w) key = some (i', v'))
    (hold' : locate? (es.set j w) (Entity.name v') = some (j', old'))
    (hfree : Entity.name (f v') ∉ names ((es.set j w).eraseIdx j')) :
    bare old' = bare (f v') := by
  -- the copy is not changed by a revision
  have hagain : bare (f w) = bare w := by
    rw [hf.congr hw, hf.again, hw]
  by_cases hkey : ∃ rest, key.toList = '$' :: rest
  · obtain ⟨rest, hrest⟩ := hkey
    exact revise_again_shortcut hnodup hw hagain hrest hv hold hv' hold' hfree
  · have hliteral : ∀ rest, key.toList ≠ '$' :: rest := fun rest hrest => hkey ⟨rest, hrest⟩
    exact revise_again_literal hnodup hagain hliteral hv hold hv' hold'

end Again

/-! ### Registries -/

namespace Registry

/-- Registries that hold like rosters are alike if each is like itself. -/
theorem Alike.of_lists {P : α → Prop} {r r' : Registry α} (h : r.Alike P r) (h' : r'.Alike P r')
    {es es' : List α} (hr : r.Lists es) (hr' : r'.Lists es') (hbare : es.map bare = es'.map bare) :
    r.Alike P r' := by
  obtain ⟨xs, -, hxs, -, -, hP, -⟩ := h.rosters
  obtain ⟨xs', -, hxs', -, -, hP', -⟩ := h'.rosters
  have hsame : xs = es := by rw [← hxs.entities_eq, hr.entities_eq]
  have hsame' : xs' = es' := by rw [← hxs'.entities_eq, hr'.entities_eq]
  exact ⟨es, es', hr, hr', hbare, hsame ▸ hP, hsame' ▸ hP'⟩

omit [Outlined α] in
theorem Lists.locate?_of_get? {r : Registry α} {es : List α} (h : r.Lists es) {key : String}
    {e : α} (he : r.get? key = some e) : ∃ i, Roster.locate? es key = some (i, e) := by
  rw [h.get?_eq] at he
  obtain ⟨p, hp, rfl⟩ := Option.map_eq_some_iff.1 he
  exact ⟨p.1, hp⟩

/-- **After two revisions** the registry is as after the first, or the second was refused. -/
theorem Alike.revise_again {Fit P : α → Prop} (hP : Lasting Fit P) {r : Registry α}
    (h : r.Alike P r) {f : α → α} (hf : Revision f) (hfit : ∀ v, P v → Fit (f v)) {key : String}
    {v : α} (hv : r.get? key = some v) {s : Stage}
    (hgranted : (r.answer (.replace (Entity.name v) (f v)) s).1.fault? = none) {r' : Registry α}
    (hr' : r' = (r.answer (.replace (Entity.name v) (f v)) s).2.1) {v' : α}
    (hv' : r'.get? key = some v') {s' : Stage}
    (hgranted' : (r'.answer (.replace (Entity.name v') (f v')) s').1.fault? = none) :
    r'.Alike P (r'.answer (.replace (Entity.name v') (f v')) s').2.1 := by
  obtain ⟨es, -, hes, -⟩ := h.rosters
  obtain ⟨i, hi⟩ := hes.locate?_of_get? hv
  have hfirst : r'.Alike P r' := by
    rw [hr']
    exact (h.answer hP (.replace _ (f v)) (hfit v (h.of_get? hv)) s s).2
  obtain ⟨hanswer, hlists, -⟩ := hes.answer (.replace (Entity.name v) (f v)) s
  rw [hanswer] at hgranted
  obtain ⟨j, old, t, hold, -, hset⟩ := Roster.replace_granted hgranted
  rw [hset, ← hr'] at hlists
  -- the second revision
  obtain ⟨i', hi'⟩ := hlists.locate?_of_get? hv'
  have hsecond := (hfirst.answer hP (.replace (Entity.name v') (f v'))
    (hfit v' (hfirst.of_get? hv')) s' s').2
  obtain ⟨hanswer', hlists', -⟩ := hlists.answer (.replace (Entity.name v') (f v')) s'
  rw [hanswer'] at hgranted'
  obtain ⟨j', old', t', hold', hfree, hset'⟩ := Roster.replace_granted hgranted'
  rw [hset'] at hlists'
  have hplace := Roster.revise_again hes.nodup hf hi hold (Outlined.bare_enter (f v) t) hi' hold'
    hfree
  refine .of_lists hfirst hsecond hlists hlists' ?_
  have hold'' := (Roster.locate?_eq_some.1 hold').2
  generalize es.set j (Entity.enter (f v) t).1 = xs at hold'' ⊢
  have hsame : (xs.map bare)[j']? = some (bare (f v')) := by
    rw [List.getElem?_map, hold'', Option.map_some, hplace]
  obtain ⟨hlt, hsame⟩ := List.getElem?_eq_some_iff.1 hsame
  rw [List.map_set, Outlined.bare_enter, ← hsame, List.set_getElem_self]

end Registry

end VectorScene.Scene
