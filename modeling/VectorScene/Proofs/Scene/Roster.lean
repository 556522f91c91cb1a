import Mathlib.Data.List.Nodup
import Mathlib.Data.List.Perm.Basic
import VectorScene.Scene.Registry

/-!
# Registries as lists

A registry keeps its entities twice: under their names, and by the order of the names. To a reader
it is one list of entities with different names, its roster. This module defines the operations on
rosters, and shows that each operation of a registry is the one of its roster.

## Main definitions

* `Roster.place?`, `Roster.locate?`: the place that a key stands for, and the entity there
* `Roster.create`, `Roster.destroy`, `Roster.replace`, `Roster.setVisible`, `Roster.clear`: the
  operations on rosters
* `Registry.Lists`: a registry holds the entities of a roster

## Main results

* `Registry.Lists.locate?_eq`: a key stands for the same entity in a registry and in its roster
* `Registry.Lists.create`, `.destroy`, `.replace`, `.setVisible`, `.clear`: the operations agree
-/

namespace VectorScene.Scene

variable {α : Type} [Entity α]

/-! ### Rosters -/

namespace Roster

/-- The names of a roster. -/
def names (es : List α) : List String := es.map Entity.name

/-- The place that a key stands for: counted from the end for a shortcut, and that of the equal name
for any other text. -/
def place? (es : List α) (key : String) : Option Nat :=
  match key.toList with
  | '$' :: rest => do
    let n ← Registry.offset? rest
    if n < es.length then some (es.length - 1 - n) else none
  | _ => es.findIdx? (Entity.name · == key)

/-- The place that a key stands for, with the entity there. -/
def locate? (es : List α) (key : String) : Option (Nat × α) := do
  let i ← place? es key
  let e ← es[i]?
  return (i, e)

/-- Adds an entity at the end, unless its name is taken. -/
def create (es : List α) (e : α) (s : Stage) : Except Error (List α × Stage) :=
  if Entity.name e ∈ names es then .error (.duplicateName (Entity.kind α) (Entity.name e))
  else .ok (es ++ [(Entity.enter e s).1], (Entity.enter e s).2)

/-- Takes the entity away that a key stands for. -/
def destroy (es : List α) (key : String) (s : Stage) : Option (α × List α × Stage) :=
  (locate? es key).map fun (i, e) =>
    ((Entity.leave e s).1, es.eraseIdx i, (Entity.leave e s).2)

/-- Puts an entity in the place that a key stands for, unless its name is that of an entity in
another place. -/
def replace (es : List α) (key : String) (e : α) (s : Stage) : Except Error (List α × Stage) :=
  match locate? es key with
  | none => .error (.notFound (Entity.kind α) key)
  | some (i, old) =>
    if Entity.name e ∈ names (es.eraseIdx i) then
      .error (.duplicateName (Entity.kind α) (Entity.name e))
    else
      let (e, s) := Entity.enter e (Entity.leave old s).2
      .ok (es.set i e, s)

/-- Shows or hides the entity that a key stands for. -/
def setVisible (es : List α) (key : String) (visible : Bool) (s : Stage) :
    Option (List α × Stage) :=
  (locate? es key).map fun (i, e) =>
    (es.set i (Entity.setVisible e visible s).1, (Entity.setVisible e visible s).2)

/-- The stage after all entities have left it, in order. -/
def clear (es : List α) (s : Stage) : Stage := es.foldl (fun s e => (Entity.leave e s).2) s

/-- An entry of a registry for an entity. -/
def entry (e : α) : String × α := (Entity.name e, e)

theorem map_entry_fst (es : List α) : (es.map entry).map (·.1) = names es := by
  simp [names, entry, Function.comp_def]

theorem mem_entry_iff {es : List α} {name : String} {e : α} :
    (name, e) ∈ es.map entry ↔ e ∈ es ∧ Entity.name e = name := by
  simp only [List.mem_map, entry, Prod.mk.injEq]
  constructor
  · rintro ⟨e', he, hn, rfl⟩
    exact ⟨he, hn⟩
  · rintro ⟨he, hn⟩
    exact ⟨e, he, hn, rfl⟩

theorem locate?_eq_some {es : List α} {key : String} {i : Nat} {e : α} :
    locate? es key = some (i, e) ↔ place? es key = some i ∧ es[i]? = some e := by
  simp only [locate?, Option.bind_eq_bind, Option.bind_eq_some_iff, Option.pure_def,
    Option.some.injEq, Prod.mk.injEq]
  constructor
  · rintro ⟨j, hj, x, hx, rfl, rfl⟩
    exact ⟨hj, hx⟩
  · rintro ⟨hj, hx⟩
    exact ⟨i, hj, e, hx, rfl, rfl⟩

theorem place?_shortcut {es : List α} {key : String} {rest : List Char}
    (h : key.toList = '$' :: rest) :
    place? es key = (Registry.offset? rest).bind fun n =>
      if n < es.length then some (es.length - 1 - n) else none := by
  simp only [place?, h]
  rfl

theorem place?_literal {es : List α} {key : String} (h : ∀ rest, key.toList ≠ '$' :: rest) :
    place? es key = es.findIdx? (Entity.name · == key) := by
  unfold place?
  split
  · exact absurd ‹_› (h _)
  · rfl

omit [Entity α] in
/-- A roster around one of its entities. -/
theorem exists_split {es : List α} {i : Nat} {e : α} (h : es[i]? = some e) :
    ∃ front back, es = front ++ e :: back ∧ front.length = i := by
  obtain ⟨hi, rfl⟩ := List.getElem?_eq_some_iff.1 h
  refine ⟨es.take i, es.drop (i + 1), ?_, List.length_take_of_le (Nat.le_of_lt hi)⟩
  rw [← List.drop_eq_getElem_cons hi, List.take_append_drop]

omit [Entity α] in
theorem eraseIdx_split (front : List α) (e : α) (back : List α) :
    (front ++ e :: back).eraseIdx front.length = front ++ back := by
  simp [List.eraseIdx_append_of_length_le]

omit [Entity α] in
theorem set_split (front : List α) (e e' : α) (back : List α) :
    (front ++ e :: back).set front.length e' = front ++ e' :: back := by
  simp

/-- The names of a roster differ if those around an entity do, and the entity has none of them. -/
theorem nodup_split_iff {front : List α} {e : α} {back : List α} :
    (names (front ++ e :: back)).Nodup ↔
      Entity.name e ∉ names (front ++ back) ∧ (names (front ++ back)).Nodup := by
  have hp : (names (front ++ e :: back)).Perm (Entity.name e :: names (front ++ back)) :=
    List.perm_middle.map _
  rw [hp.nodup_iff, List.nodup_cons]

theorem name_notMem_front {front : List α} {e : α} {back : List α}
    (h : Entity.name e ∉ names (front ++ back)) : Entity.name e ∉ front.map Entity.name :=
  fun hm => h (by rw [names, List.map_append]; exact List.mem_append_left _ hm)

theorem cons_perm_split {stored : List (String × α)} {front : List α} {e : α} {back : List α}
    (h : stored.Perm ((front ++ back).map entry)) :
    (entry e :: stored).Perm ((front ++ e :: back).map entry) := by
  refine (h.cons _).trans ?_
  rw [List.map_append, List.map_append, List.map_cons]
  exact List.perm_middle.symm

end Roster

/-! ### What is stored -/

omit [Entity α] in
/-- Under different keys, what is stored under a key is what stands there. -/
theorem lookup_eq_some_iff_mem {κ : Type} [BEq κ] [LawfulBEq κ] {stored : List (κ × α)}
    (h : (stored.map (·.1)).Nodup) {key : κ} {e : α} :
    stored.lookup key = some e ↔ (key, e) ∈ stored := by
  induction stored with
  | nil => simp
  | cons first rest ih =>
    obtain ⟨hfirst, hrest⟩ := List.nodup_cons.1 h
    obtain ⟨k, x⟩ := first
    by_cases hk : key = k
    · subst hk
      have hnot : (key, e) ∉ rest := fun hm => hfirst (List.mem_map.2 ⟨_, hm, rfl⟩)
      simp only [List.lookup_cons_self, Option.some.injEq, List.mem_cons, Prod.mk.injEq, true_and,
        hnot, or_false, eq_comm]
    · have hne : (key, e) ≠ (k, x) := fun he => hk (congrArg (·.1) he)
      simp only [List.lookup_cons, beq_eq_false_iff_ne.2 hk, List.mem_cons, hne, false_or]
      exact ih hrest

theorem without_entry_of_notMem {es : List α} {name : String} (h : name ∉ Roster.names es) :
    Registry.without (es.map Roster.entry) name = es.map Roster.entry := by
  refine List.filter_eq_self.2 fun p hp => ?_
  have hne : p.1 ≠ name := by
    rintro rfl
    exact h (Roster.map_entry_fst es ▸ List.mem_map_of_mem hp)
  simpa using hne

theorem without_entry_split {front : List α} {e : α} {back : List α}
    (h : Entity.name e ∉ Roster.names (front ++ back)) :
    Registry.without ((front ++ e :: back).map Roster.entry) (Entity.name e) =
      (front ++ back).map Roster.entry := by
  rw [← without_entry_of_notMem h]
  simp [Registry.without, Roster.entry]

/-! ### Registries and their rosters -/

namespace Registry

/-- A registry holds the entities of a roster. -/
structure Lists (r : Registry α) (es : List α) : Prop where
  order : r.order = Roster.names es
  stored : r.stored.Perm (es.map Roster.entry)
  nodup : (Roster.names es).Nodup

/-- Releasing the names of a roster one after another takes its entities off the stage. -/
theorem release_names (es : List α) {stored : List (String × α)}
    (hstored : stored.Perm (es.map Roster.entry)) (h : (Roster.names es).Nodup) (s : Stage) :
    ((Roster.names es).foldl release (stored, s)).2 = Roster.clear es s := by
  induction es generalizing stored s with
  | nil => rfl
  | cons e rest ih =>
    obtain ⟨hname, hrest⟩ := List.nodup_cons.1 h
    have hkeys : (stored.map (·.1)).Nodup := by
      rw [(hstored.map (·.1)).nodup_iff, Roster.map_entry_fst]
      exact h
    have hlookup : stored.lookup (Entity.name e) = some e := by
      rw [lookup_eq_some_iff_mem hkeys, hstored.mem_iff]
      exact List.mem_cons_self
    have hstep : release (stored, s) (Entity.name e) =
        (without stored (Entity.name e), (Entity.leave e s).2) := by
      simp only [release, hlookup]
    have hleft : (without stored (Entity.name e)).Perm (rest.map Roster.entry) := by
      have hsplit := @without_entry_split α _ [] e rest hname
      exact (hstored.filter _).trans (.of_eq hsplit)
    -- the first name takes the first entity off the stage, and the rest of the roster is stored
    rw [Roster.names, List.map_cons, List.foldl_cons, hstep]
    exact ih hleft hrest _

theorem lists_empty : (Registry.empty : Registry α).Lists [] :=
  ⟨rfl, .nil, .nil⟩

namespace Lists

variable {r : Registry α} {es : List α}

theorem nodup_stored (h : r.Lists es) : (r.stored.map (·.1)).Nodup := by
  rw [(h.stored.map (·.1)).nodup_iff, Roster.map_entry_fst]
  exact h.nodup

theorem named?_eq_some_iff (h : r.Lists es) {name : String} {e : α} :
    r.named? name = some e ↔ e ∈ es ∧ Entity.name e = name := by
  rw [named?, lookup_eq_some_iff_mem h.nodup_stored, h.stored.mem_iff, Roster.mem_entry_iff]

theorem named?_isSome_iff (h : r.Lists es) {name : String} :
    (r.named? name).isSome ↔ name ∈ Roster.names es := by
  simp only [Option.isSome_iff_exists, h.named?_eq_some_iff, Roster.names, List.mem_map]

theorem named?_name (h : r.Lists es) {e : α} (he : e ∈ es) :
    r.named? (Entity.name e) = some e :=
  h.named?_eq_some_iff.2 ⟨he, rfl⟩

theorem entities_eq (h : r.Lists es) : r.entities = es := by
  rw [entities, h.order, Roster.names, List.filterMap_map]
  have hall : ∀ e ∈ es, (r.named? ∘ Entity.name) e = some e := fun e he => h.named?_name he
  rw [List.filterMap_congr hall, List.filterMap_some]

theorem size_eq (h : r.Lists es) : r.size = es.length := by
  rw [size, h.stored.length_eq, List.length_map]

/-- A key stands for the same entity in a registry and in its roster. -/
theorem resolve_eq (h : r.Lists es) (key : String) :
    r.resolve key = (Roster.locate? es key).map (Entity.name ·.2) := by
  unfold resolve Roster.locate?
  split
  · rename_i rest hkey
    rw [Roster.place?_shortcut hkey, h.order, Roster.names]
    cases offset? rest with
    | none => rfl
    | some n =>
      by_cases hn : n < es.length
      · have hlt : es.length - 1 - n < es.length := by omega
        simp [hn, List.getElem?_eq_getElem hlt]
      · simp [hn]
  · -- a registry looks the name up in what is stored, a roster looks for its place
    rename_i hkey
    rw [Roster.place?_literal hkey]
    cases hi : es.findIdx? (Entity.name · == key) with
    | none =>
      have hnot : ¬ (r.named? key).isSome := by
        rw [h.named?_isSome_iff]
        simpa [Roster.names] using List.findIdx?_eq_none_iff.1 hi
      simp [hnot]
    | some i =>
      obtain ⟨hlt, hname, -⟩ := List.findIdx?_eq_some_iff_getElem.1 hi
      have hin : Entity.name es[i] = key := by simpa using hname
      have hsome : (r.named? key).isSome :=
        h.named?_isSome_iff.2 (hin ▸ List.mem_map_of_mem (List.getElem_mem hlt))
      simp [hsome, List.getElem?_eq_getElem hlt, hin]

theorem get?_eq (h : r.Lists es) (key : String) :
    r.get? key = (Roster.locate? es key).map (·.2) := by
  rw [get?, h.resolve_eq]
  cases hl : Roster.locate? es key with
  | none => rfl
  | some p => exact h.named?_name (List.mem_of_getElem? (Roster.locate?_eq_some.1 hl).2)

/-! ### Changes -/

theorem create_taken (h : r.Lists es) {e : α} (he : Entity.name e ∈ Roster.names es) (s : Stage) :
    r.create e s = .error (.duplicateName (Entity.kind α) (Entity.name e)) := by
  simp [create, h.named?_isSome_iff.2 he]

theorem create_free (h : r.Lists es) {e : α} (he : Entity.name e ∉ Roster.names es) (s : Stage) :
    ∃ r', r.create e s = .ok (r', (Entity.enter e s).2) ∧
      r'.Lists (es ++ [(Entity.enter e s).1]) := by
  have hnot : ¬ (r.named? (Entity.name e)).isSome := fun hs => he (h.named?_isSome_iff.1 hs)
  -- the entry is stored in front and its name stands last: what is stored agrees up to order
  refine ⟨⟨(Entity.name e, (Entity.enter e s).1) :: r.stored, r.order ++ [Entity.name e]⟩, ?_, ?_⟩
  · simp [create, hnot]
  · refine ⟨?_, ?_, ?_⟩
    · simp [h.order, Roster.names]
    · rw [← Entity.name_enter e s]
      exact Roster.cons_perm_split (by simpa using h.stored)
    · rw [Roster.nodup_split_iff, List.append_nil, Entity.name_enter]
      exact ⟨he, h.nodup⟩

theorem destroy_none (h : r.Lists es) {key : String} (hk : Roster.locate? es key = none)
    (s : Stage) : r.destroy key s = none := by
  simp [destroy, h.resolve_eq, hk]

theorem destroy_some (h : r.Lists es) {key : String} {i : Nat} {e : α}
    (hk : Roster.locate? es key = some (i, e)) (s : Stage) :
    ∃ r', r.destroy key s = some ((Entity.leave e s).1, r', (Entity.leave e s).2) ∧
      r'.Lists (es.eraseIdx i) := by
  have hget := (Roster.locate?_eq_some.1 hk).2
  obtain ⟨front, back, rfl, rfl⟩ := Roster.exists_split hget
  obtain ⟨hname, hrest⟩ := Roster.nodup_split_iff.1 h.nodup
  refine ⟨⟨without r.stored (Entity.name e), r.order.erase (Entity.name e)⟩, ?_, ?_⟩
  · simp [destroy, h.resolve_eq, hk, h.named?_name (List.mem_of_getElem? hget)]
  · rw [Roster.eraseIdx_split]
    refine ⟨?_, ?_, hrest⟩
    · simp only [h.order, Roster.names, List.map_append, List.map_cons]
      rw [List.erase_append_right _ (Roster.name_notMem_front hname), List.erase_cons_head]
    · rw [← without_entry_split hname]
      exact h.stored.filter _

theorem replace_none (h : r.Lists es) {key : String} (hk : Roster.locate? es key = none) (e : α)
    (s : Stage) : r.replace key e s = .error (.notFound (Entity.kind α) key) := by
  simp [replace, h.resolve_eq, hk]

theorem replace_taken (h : r.Lists es) {key : String} {i : Nat} {old e : α}
    (hk : Roster.locate? es key = some (i, old))
    (he : Entity.name e ∈ Roster.names (es.eraseIdx i)) (s : Stage) :
    r.replace key e s = .error (.duplicateName (Entity.kind α) (Entity.name e)) := by
  obtain ⟨front, back, rfl, rfl⟩ := Roster.exists_split (Roster.locate?_eq_some.1 hk).2
  rw [Roster.eraseIdx_split] at he
  have hne : Entity.name e ≠ Entity.name old := fun heq =>
    (Roster.nodup_split_iff.1 h.nodup).1 (heq ▸ he)
  have hin : Entity.name e ∈ Roster.names (front ++ old :: back) :=
    (List.Sublist.map _ (List.Sublist.append_left (List.sublist_cons_self _ _) _)).subset he
  simp [replace, h.resolve_eq, hk, hne, h.named?_isSome_iff.2 hin]

theorem replace_free (h : r.Lists es) {key : String} {i : Nat} {old e : α}
    (hk : Roster.locate? es key = some (i, old))
    (he : Entity.name e ∉ Roster.names (es.eraseIdx i)) (s : Stage) :
    ∃ r', r.replace key e s = .ok (r', (Entity.enter e (Entity.leave old s).2).2) ∧
      r'.Lists (es.set i (Entity.enter e (Entity.leave old s).2).1) := by
  have hget := (Roster.locate?_eq_some.1 hk).2
  obtain ⟨front, back, rfl, rfl⟩ := Roster.exists_split hget
  obtain ⟨hold, hrest⟩ := Roster.nodup_split_iff.1 h.nodup
  rw [Roster.eraseIdx_split] at he
  -- the name may be that of the entity that goes, but no other one that is stored
  have hfree : ¬ (Entity.name e ≠ Entity.name old ∧ (r.named? (Entity.name e)).isSome) := by
    rintro ⟨hne, hs⟩
    have hin : Entity.name e ∈ Roster.names (front ++ old :: back) := h.named?_isSome_iff.1 hs
    simp only [Roster.names, List.map_append, List.map_cons, List.mem_append, List.mem_cons]
      at hin he
    tauto
  have horder : Entity.name old ∈ r.order := by
    rw [h.order]
    exact List.mem_map_of_mem (List.mem_of_getElem? hget)
  generalize hs : (Entity.leave old s).2 = left
  refine ⟨⟨(Entity.name e, (Entity.enter e left).1) ::
    without (without r.stored (Entity.name old)) (Entity.name e),
    r.order.replace (Entity.name old) (Entity.name e)⟩, ?_, ?_⟩
  · simp [replace, h.resolve_eq, hk, hfree, horder, hs, h.named?_name (List.mem_of_getElem? hget)]
  · rw [Roster.set_split]
    refine ⟨?_, ?_, ?_⟩
    · simp only [h.order, Roster.names, List.map_append, List.map_cons, Entity.name_enter]
      rw [List.replace_append_right (Roster.name_notMem_front hold), List.replace_cons_self]
    · rw [← Entity.name_enter e left]
      refine Roster.cons_perm_split ?_
      -- the old entry is taken away; under the new name nothing else was stored
      rw [Entity.name_enter, ← without_entry_of_notMem he, ← without_entry_split hold]
      exact (h.stored.filter _).filter _
    · rw [Roster.nodup_split_iff, Entity.name_enter]
      exact ⟨he, hrest⟩

theorem setVisible_none (h : r.Lists es) {key : String} (hk : Roster.locate? es key = none)
    (visible : Bool) (s : Stage) : r.setVisible key visible s = none := by
  simp [setVisible, h.resolve_eq, hk]

theorem setVisible_some (h : r.Lists es) {key : String} {i : Nat} {e : α}
    (hk : Roster.locate? es key = some (i, e)) (visible : Bool) (s : Stage) :
    ∃ r', r.setVisible key visible s = some (r', (Entity.setVisible e visible s).2) ∧
      r'.Lists (es.set i (Entity.setVisible e visible s).1) := by
  have hget := (Roster.locate?_eq_some.1 hk).2
  obtain ⟨front, back, rfl, rfl⟩ := Roster.exists_split hget
  obtain ⟨hname, hrest⟩ := Roster.nodup_split_iff.1 h.nodup
  refine ⟨⟨(Entity.name e, (Entity.setVisible e visible s).1) :: without r.stored (Entity.name e),
    r.order⟩, ?_, ?_⟩
  · simp [setVisible, h.resolve_eq, hk, h.named?_name (List.mem_of_getElem? hget)]
  · rw [Roster.set_split]
    refine ⟨?_, ?_, ?_⟩
    · simp [h.order, Roster.names]
    · rw [← Entity.name_setVisible e visible s]
      refine Roster.cons_perm_split ?_
      rw [Entity.name_setVisible, ← without_entry_split hname]
      exact h.stored.filter _
    · rw [Roster.nodup_split_iff, Entity.name_setVisible]
      exact ⟨hname, hrest⟩

/-- Clearing takes all entities off the stage, in the order of creation. -/
theorem clear_eq (h : r.Lists es) (s : Stage) : r.clear s = (.empty, Roster.clear es s) := by
  rw [clear, h.order, release_names es h.stored h.nodup s]

end Lists

end Registry

end VectorScene.Scene
