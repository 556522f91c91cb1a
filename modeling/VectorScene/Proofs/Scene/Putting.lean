import VectorScene.Proofs.Scene.Places

/-!
# Putting entities under their names

To put an entity is to replace the one that its name leads to as a key, or to add the entity if its
name leads to none. This is meant to leave every entity of another name as it is. It does so just if
the name stands for itself: a name that is a shortcut may lead to an entity of another name, which
is replaced then, or to none although an entity has it, which is refused then.

## Main definitions

* `Registry.StandsForItself`: a name leads to the entity that has it, if one has, and to none else
* `Registry.Hides`: a name is taken, and leads elsewhere
* `Registry.putting`: the request that puts an entity
* `Registry.Placed`: where the entity is put
* `Registry.HasPut`: the entity is under its name, and those of other names are as they were

## Main results

* `Registry.Lists.standsForItself`: names that are no shortcuts
* `Registry.Lists.putting_refused`, `Registry.Lists.putting_granted`: what comes of the request
* `Registry.Placed.hasPut_iff`: when entities of other names are left alone
-/

namespace VectorScene.Scene

variable {α : Type} [Entity α]

namespace Registry

/-- A name, as a key, leads to the entity that has it, or to none if no entity has it. -/
def StandsForItself (r : Registry α) (name : String) : Prop :=
  r.resolve name = if name ∈ r.names then some name else none

/-- A name is taken, but as a key it does not lead to the entity that has it. -/
def Hides (r : Registry α) (name : String) : Prop :=
  name ∈ r.names ∧ r.resolve name ≠ some name

/-- The request that puts an entity in the place that its name leads to, or behind the others. -/
def putting (r : Registry α) (e : α) : Request α :=
  if r.contains (Entity.name e) then .replace (Entity.name e) e else .create e

/-- An entity has been put in the place that its name leads to, or behind the others. -/
inductive Placed (r : Registry α) (e : α) (r' : Registry α) : Prop where
  | replaced {j : Nat} {old : α} : r.Leads (Entity.name e) j old → r.ChangedAt j e r' →
    Placed r e r'
  | added (s : Stage) : r.resolve (Entity.name e) = none → Entity.name e ∉ r.names →
    r'.names = r.names ++ [Entity.name e] →
    r'.entities = r.entities ++ [(Entity.enter e s).1] → Placed r e r'

/-- An entity is under its name, in the place of the one that had the name or behind all others, and
entities of other names are in their places. -/
structure HasPut (r : Registry α) (e : α) (r' : Registry α) : Prop where
  names : r'.names = if Entity.name e ∈ r.names then r.names else r.names ++ [Entity.name e]
  entity : ∃ (k : Nat) (s : Stage), r'.names[k]? = some (Entity.name e) ∧
    r'.entities[k]? = some (Entity.enter e s).1
  others : ∀ (k : Nat) name, r.names[k]? = some name → name ≠ Entity.name e →
    r'.names[k]? = some name ∧ r'.entities[k]? = r.entities[k]?

omit [Entity α] in
theorem not_hides {r : Registry α} {name : String} (h : r.StandsForItself name) :
    ¬r.Hides name := by
  rintro ⟨hmem, hother⟩
  rw [StandsForItself, if_pos hmem] at h
  exact hother h

variable {r r' : Registry α} {es : List α} {e : α}

namespace Lists

theorem length_entities (h : r.Lists es) : r.entities.length = r.names.length := by
  rw [h.entities_eq, h.names_eq, Roster.names, List.length_map]

/-- A name that is no shortcut stands for itself. -/
theorem standsForItself (h : r.Lists es) {name : String}
    (hliteral : ∀ rest, name.toList ≠ '$' :: rest) : r.StandsForItself name :=
  h.shows.resolve_literal name hliteral

/-- A key leads to an entity of the registry, or to no name. -/
theorem leads_or_none (h : r.Lists es) (key : String) :
    r.resolve key = none ∨ ∃ j old, r.Leads key j old := by
  cases hl : Roster.locate? es key with
  | none => exact .inl (by rw [h.resolve_eq, hl]; rfl)
  | some place => exact .inr ⟨place.1, place.2, h.leads_iff.2 hl⟩

/-- **A name that is taken and leads elsewhere** is refused. -/
theorem putting_refused (h : r.Lists es) (hides : r.Hides (Entity.name e)) (s : Stage) :
    (r.answer (r.putting e) s).1.fault? =
      some (.duplicateName (Entity.kind α) (Entity.name e)) := by
  obtain ⟨hmem, hother⟩ := hides
  rw [h.names_eq] at hmem
  rcases h.leads_or_none (Entity.name e) with hnone | ⟨j, old, hleads⟩
  · have hput : r.putting e = .create e := by simp [putting, contains, hnone]
    simp only [hput, Registry.answer, h.create_taken hmem]
    rfl
  · obtain ⟨name, hname, -⟩ := hleads
    have hput : r.putting e = .replace (Entity.name e) e := by simp [putting, contains, hname]
    -- the entity that would go has another name
    have hne : Entity.name e ≠ name := fun heq => hother (by rw [hname, heq])
    simp only [hput, Registry.answer, replace, hname]
    rw [if_pos ⟨hne, h.named?_isSome_iff.2 hmem⟩]
    rfl

/-- **Any other name** is granted, and leads to the place of the entity. -/
theorem putting_granted (h : r.Lists es) (hides : ¬r.Hides (Entity.name e)) (s : Stage) :
    (r.answer (r.putting e) s).1.fault? = none ∧ r.Placed e (r.answer (r.putting e) s).2.1 := by
  rcases h.leads_or_none (Entity.name e) with hnone | ⟨j, old, hleads⟩
  · have hput : r.putting e = .create e := by simp [putting, contains, hnone]
    have hfree : Entity.name e ∉ r.names := fun hmem => hides ⟨hmem, by simp [hnone]⟩
    rw [h.names_eq] at hfree
    obtain ⟨r', hcreate, hlists⟩ := h.create_free hfree s
    simp only [hput, Registry.answer, hcreate]
    refine ⟨rfl, .added s hnone (h.names_eq ▸ hfree) ?_ ?_⟩
    · rw [hlists.names_eq, h.names_eq, Roster.names, List.map_append, List.map_singleton,
        Entity.name_enter]
      rfl
    · rw [hlists.entities_eq, h.entities_eq]
  · have hlocate := h.leads_iff.1 hleads
    obtain ⟨name, hname, hplace, -⟩ := hleads
    have hput : r.putting e = .replace (Entity.name e) e := by simp [putting, contains, hname]
    -- in the other places nobody has the name
    have hfree : Entity.name e ∉ Roster.names (es.eraseIdx j) := by
      intro hmem
      obtain ⟨x, hx, hsame⟩ := List.mem_map.1 hmem
      obtain ⟨i, hij, hx⟩ := List.mem_eraseIdx_iff_getElem?.1 hx
      refine hides ⟨h.names_eq ▸ List.mem_map.2 ⟨x, List.mem_of_getElem? hx, hsame⟩, ?_⟩
      rintro hself
      obtain ⟨-, hold⟩ := Roster.locate?_eq_some.1 hlocate
      rw [h.resolve_eq, hlocate] at hself
      exact hij (Roster.place_unique h.nodup hx hold (hsame.trans (Option.some.inj hself).symm))
    obtain ⟨r', hreplace, -⟩ := h.replace_free hlocate hfree s
    have hgranted : (r.answer (.replace (Entity.name e) e) s).1.fault? = none := by
      simp only [Registry.answer, hreplace]
      rfl
    rw [hput]
    obtain ⟨i, other, hi, hchanged⟩ := h.replace_changedAt hgranted
    exact ⟨hgranted, .replaced hi hchanged⟩

end Lists

/-- A place whose name stays what it was leaves the names as they are. -/
theorem ChangedAt.names_eq {j : Nat} (h : r.ChangedAt j e r')
    (hj : r.names[j]? = some (Entity.name e)) : r'.names = r.names := by
  refine List.ext_getElem? fun k => ?_
  by_cases hk : k = j
  · rw [hk, h.name, hj]
  · exact (h.others k hk).1

/-- **Entities of other names are left alone** just if the name stands for itself. -/
theorem Placed.hasPut_iff (h : r.Placed e r') (hr : r.Lists es) :
    r.HasPut e r' ↔ r.StandsForItself (Entity.name e) := by
  cases h with
  | @replaced j old hleads hchanged =>
    obtain ⟨name, hname, hplace, -⟩ := hleads
    constructor
    · intro hput
      have hsame : name = Entity.name e := by
        by_contra hne
        have hkept := (hput.others j name hplace hne).1
        rw [hchanged.name, Option.some.injEq] at hkept
        exact hne hkept.symm
      subst hsame
      rw [StandsForItself, hname, if_pos (List.mem_of_getElem? hplace)]
    · intro hself
      have hmem : Entity.name e ∈ r.names := by
        by_contra hnot
        rw [StandsForItself, if_neg hnot, hname] at hself
        cases hself
      rw [StandsForItself, if_pos hmem, hname, Option.some.injEq] at hself
      subst hself
      obtain ⟨s, hs⟩ := hchanged.entity
      refine ⟨by rw [if_pos hmem, hchanged.names_eq hplace], ⟨j, s, hchanged.name, hs⟩, ?_⟩
      intro k other hk hne
      have hkj : k ≠ j := by
        rintro rfl
        exact hne (Option.some.inj (hk.symm.trans hplace))
      obtain ⟨hothername, hother⟩ := hchanged.others k hkj
      exact ⟨hothername.trans hk, hother⟩
  | added s hnone hfree hnames hentities =>
    refine iff_of_true ⟨by rw [if_neg hfree, hnames], ⟨r.names.length, s, ?_, ?_⟩, ?_⟩
      (by rw [StandsForItself, hnone, if_neg hfree])
    · rw [hnames, List.getElem?_concat_length]
    · rw [hentities, ← hr.length_entities, List.getElem?_concat_length]
    · intro k other hk _
      have hlt : k < r.names.length := (List.getElem?_eq_some_iff.1 hk).1
      rw [hnames, hentities, List.getElem?_append_left hlt,
        List.getElem?_append_left (hr.length_entities ▸ hlt)]
      exact ⟨hk, rfl⟩

end Registry

end VectorScene.Scene
