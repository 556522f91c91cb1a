import VectorScene.Proofs.Scene.Revising

/-!
# Places

The entities of a registry stand in places, in the order of their names, and a key leads to one of
them. A request to replace an entity changes the entity of one place, the one that its key leads to.
The name of an entity is a key that leads to its own place, unless it is a shortcut that stands for
another name.

## Main definitions

* `Registry.Leads`: a key leads to the entity of a place
* `Registry.ChangedAt`: the entity of one place has been changed

## Main results

* `Registry.Lists.replace_changedAt`: a request to replace an entity that was granted
* `Registry.Lists.own_place_iff`: the place that the name of an entity leads to
* `Registry.Lists.resolve_name`: names that are no shortcuts
-/

namespace VectorScene.Scene

variable {α : Type} [Entity α]

namespace Registry

/-- A key leads to the entity of a place. -/
def Leads (r : Registry α) (key : String) (i : Nat) (e : α) : Prop :=
  ∃ name, r.resolve key = some name ∧ r.names[i]? = some name ∧ r.entities[i]? = some e

/-- The entity of one place has been changed: the new one is there, on the stage and under its name,
and every other place holds the same entity under the same name. -/
structure ChangedAt (r : Registry α) (i : Nat) (e : α) (r' : Registry α) : Prop where
  name : r'.names[i]? = some (Entity.name e)
  entity : ∃ s, r'.entities[i]? = some (Entity.enter e s).1
  others : ∀ k, k ≠ i → r'.names[k]? = r.names[k]? ∧ r'.entities[k]? = r.entities[k]?

namespace Lists

variable {r : Registry α} {es : List α} {key : String} {i j : Nat} {e old : α}

/-- The names of a registry are those of its roster. -/
theorem names_eq (h : r.Lists es) : r.names = Roster.names es := h.order

theorem name_getElem? (h : r.Lists es) (he : es[i]? = some e) :
    r.names[i]? = some (Entity.name e) := by
  rw [h.names_eq, Roster.names, List.getElem?_map, he]
  rfl

/-- What a key leads to is in the roster. -/
theorem mem_of_get? (h : r.Lists es) (he : r.get? key = some e) : e ∈ es := by
  rw [h.get?_eq] at he
  obtain ⟨⟨i, x⟩, hlocate, rfl⟩ := Option.map_eq_some_iff.1 he
  exact List.mem_of_getElem? (Roster.locate?_eq_some.1 hlocate).2

/-- A key leads to the same place in a registry and in its roster. -/
theorem leads_iff (h : r.Lists es) : r.Leads key i e ↔ Roster.locate? es key = some (i, e) := by
  constructor
  · rintro ⟨name, hresolve, hname, he⟩
    rw [h.entities_eq] at he
    rw [h.resolve_eq] at hresolve
    obtain ⟨⟨j, x⟩, hlocate, rfl⟩ := Option.map_eq_some_iff.1 hresolve
    have hx := (Roster.locate?_eq_some.1 hlocate).2
    -- the name is that of the entity which was located, and there is only one of that name
    have hsame : Entity.name e = Entity.name x := by
      rw [h.name_getElem? he] at hname
      exact Option.some.inj hname
    obtain rfl := Roster.place_unique h.nodup he hx hsame
    obtain rfl : e = x := Option.some.inj (he.symm.trans hx)
    exact hlocate
  · intro hlocate
    have he := (Roster.locate?_eq_some.1 hlocate).2
    refine ⟨Entity.name e, ?_, h.name_getElem? he, ?_⟩
    · rw [h.resolve_eq, hlocate]
      rfl
    · rw [h.entities_eq]
      exact he

/-- **A request to replace an entity** that was granted changes the entity of the place that its key
leads to. -/
theorem replace_changedAt (h : r.Lists es) {s : Stage}
    (hgranted : (r.answer (.replace key e) s).1.fault? = none) :
    ∃ j old, r.Leads key j old ∧ r.ChangedAt j e (r.answer (.replace key e) s).2.1 := by
  obtain ⟨hanswer, hlists, -⟩ := h.answer (.replace key e) s
  rw [hanswer] at hgranted
  obtain ⟨j, old, t, hold, -, hset⟩ := Roster.replace_granted hgranted
  rw [hset] at hlists
  have hplace : j < es.length :=
    (List.getElem?_eq_some_iff.1 (Roster.locate?_eq_some.1 hold).2).1
  have hnew : (es.set j (Entity.enter e t).1)[j]? = some (Entity.enter e t).1 :=
    List.getElem?_set_self hplace
  refine ⟨j, old, h.leads_iff.2 hold, ?_, ⟨t, ?_⟩, fun k hk => ⟨?_, ?_⟩⟩
  · rw [hlists.name_getElem? hnew, Entity.name_enter]
  · rw [hlists.entities_eq, hnew]
  · rw [hlists.names_eq, h.names_eq, Roster.names, Roster.names, List.map_set,
      List.getElem?_set_ne (Ne.symm hk)]
  · rw [hlists.entities_eq, h.entities_eq, List.getElem?_set_ne (Ne.symm hk)]

/-- **The name of an entity** leads to the place of the entity just if it stands for itself. -/
theorem own_place_iff (h : r.Lists es) (hi : r.Leads key i e)
    (hj : r.Leads (Entity.name e) j old) :
    j = i ↔ r.resolve (Entity.name e) = some (Entity.name e) := by
  have he : r.names[i]? = some (Entity.name e) := by
    obtain ⟨-, -, -, he⟩ := hi
    rw [h.entities_eq] at he
    exact h.name_getElem? he
  obtain ⟨name, hresolve, hname, -⟩ := hj
  constructor
  · rintro rfl
    rw [hresolve, ← hname, he]
  · intro hself
    obtain rfl : name = Entity.name e := Option.some.inj (hresolve.symm.trans hself)
    -- names are in one place each
    rw [h.names_eq] at he hname
    obtain ⟨hi', he⟩ := List.getElem?_eq_some_iff.1 he
    obtain ⟨hj', hname⟩ := List.getElem?_eq_some_iff.1 hname
    exact h.nodup.getElem_inj_iff.1 (hname.trans he.symm)

/-- A name that is no shortcut stands for itself. -/
theorem resolve_name (h : r.Lists es) (hi : r.Leads key i e)
    (hliteral : ∀ rest, (Entity.name e).toList ≠ '$' :: rest) :
    r.resolve (Entity.name e) = some (Entity.name e) := by
  obtain ⟨-, -, -, he⟩ := hi
  rw [h.entities_eq] at he
  have hmem : Entity.name e ∈ r.names := List.mem_of_getElem? (h.name_getElem? he)
  rw [h.shows.resolve_literal _ hliteral, if_pos hmem]

end Lists

end Registry

end VectorScene.Scene
