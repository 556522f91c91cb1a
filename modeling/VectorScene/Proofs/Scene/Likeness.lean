import VectorScene.Proofs.Scene.Accounts
import VectorScene.Proofs.Scene.Asking

/-!
# Scenes that differ in their handles only

Two registries are alike if their rosters are the same but for the handles of the entities. No
answer to a request tells like registries apart, and they stay alike; so do scenes, whatever stands
on their stages.

## Main definitions

* `Outlined`: entities of which one can forget the handles
* `Lasting`: what is true of an entity for as long as it is in a registry
* `Registry.Alike`, `State.Alike`: the same but for handles

## Main results

* `Roster.answer_alike`, `Registry.Alike.answer`: one request
* `State.Alike.askVectors`, `State.Alike.askMatrices`: one request to a scene
-/

namespace VectorScene.Scene

/-- Entities of which one can forget the handles. -/
class Outlined (α : Type) [Entity α] where
  bare : α → α
  name_bare (e : α) : Entity.name (bare e) = Entity.name e
  bare_enter (e : α) (s : Stage) : bare (Entity.enter e s).1 = bare e
  bare_leave (e : α) (s : Stage) : bare (Entity.leave e s).1 = bare e
  bare_setVisible {e e' : α} (h : bare e = bare e') (visible : Bool) (s s' : Stage) :
    bare (Entity.setVisible e visible s).1 = bare (Entity.setVisible e' visible s').1

/-- What is true of an entity for as long as it is in a registry, if it is fit for entering. -/
structure Lasting {α : Type} [Entity α] (Fit P : α → Prop) : Prop where
  enter : ∀ e s, Fit e → P (Entity.enter e s).1
  setVisible : ∀ e visible s, P e → P (Entity.setVisible e visible s).1

open Outlined (bare name_bare)

variable {α : Type} [Entity α] [Outlined α]

theorem Outlined.name_congr {e e' : α} (h : bare e = bare e') : Entity.name e = Entity.name e' := by
  rw [← name_bare e, h, name_bare]

/-- An answer without handles. -/
def Answer.bare : Answer α → Answer α
  | .entered e => .entered (e.map Outlined.bare)
  | .refused fault => .refused fault
  | .left e => .left (e.map Outlined.bare)
  | .shown found => .shown found
  | .cleared => .cleared

namespace Answer

theorem fault?_bare (a : Answer α) : a.bare.fault? = a.fault? := by cases a <;> rfl

theorem gone?_bare (a : Answer α) : a.bare.gone? = a.gone?.map Outlined.bare := by cases a <;> rfl

theorem found_bare (a : Answer α) : a.bare.found = a.found := by cases a <;> rfl

end Answer

/-! ### Rosters -/

namespace Roster

variable {es es' : List α}

theorem names_map_bare (es : List α) : names (es.map bare) = names es := by
  simp [names, Function.comp_def, name_bare]

theorem names_congr (h : es.map bare = es'.map bare) : names es = names es' := by
  rw [← names_map_bare, h, names_map_bare]

theorem place?_congr (h : es.map bare = es'.map bare) (key : String) :
    place? es key = place? es' key := by
  have hnames := names_congr h
  -- a shortcut counts entities, any other key is compared to their names
  by_cases hkey : ∃ rest, key.toList = '$' :: rest
  · obtain ⟨rest, hrest⟩ := hkey
    have hlength : es.length = es'.length := by simpa [names] using congrArg List.length hnames
    rw [place?_shortcut hrest, place?_shortcut hrest, hlength]
  · have hliteral : ∀ l : List α, place? l key = (names l).findIdx? (· == key) := by
      intro l
      rw [place?_literal fun rest hrest => hkey ⟨rest, hrest⟩, names, List.findIdx?_map]
      rfl
    rw [hliteral, hliteral, hnames]

/-- A key stands for the same place of like rosters, and like entities are there. -/
theorem locate?_congr (h : es.map bare = es'.map bare) (key : String) :
    (locate? es key).map (fun p => (p.1, bare p.2)) =
      (locate? es' key).map (fun p => (p.1, bare p.2)) := by
  simp only [locate?, place?_congr h key]
  cases place? es' key with
  | none => rfl
  | some i =>
    have hi : es[i]?.map bare = es'[i]?.map bare := by
      rw [← List.getElem?_map, h, List.getElem?_map]
    cases he : es[i]? <;> cases he' : es'[i]? <;> simp_all

theorem eraseIdx_congr (h : es.map bare = es'.map bare) (i : Nat) :
    (es.eraseIdx i).map bare = (es'.eraseIdx i).map bare := by
  rw [← List.eraseIdx_map, h, List.eraseIdx_map]

theorem set_congr (h : es.map bare = es'.map bare) (i : Nat) {e e' : α} (he : bare e = bare e') :
    (es.set i e).map bare = (es'.set i e').map bare := by
  rw [List.map_set, List.map_set, h, he]

theorem find?_congr (h : es.map bare = es'.map bare) (name : String) :
    (es.find? (Entity.name · == name)).map bare = (es'.find? (Entity.name · == name)).map bare := by
  have hmap : ∀ l : List α, (l.find? (Entity.name · == name)).map bare =
      (l.map bare).find? (Entity.name · == name) := by
    intro l
    simp [List.find?_map, Function.comp_def, name_bare]
  rw [hmap, hmap, h]

/-- What a key stands for in like rosters. -/
theorem locate?_alike (h : es.map bare = es'.map bare) (key : String) :
    (locate? es key = none ∧ locate? es' key = none) ∨
      ∃ i e e', locate? es key = some (i, e) ∧ locate? es' key = some (i, e') ∧
        bare e = bare e' := by
  have hlocate := locate?_congr h key
  cases hl : locate? es key with
  | none =>
    rw [hl, Option.map_none] at hlocate
    exact .inl ⟨rfl, Option.map_eq_none_iff.1 hlocate.symm⟩
  | some p =>
    rw [hl, Option.map_some] at hlocate
    obtain ⟨p', hl', hp⟩ := Option.map_eq_some_iff.1 hlocate.symm
    obtain ⟨hi, he⟩ := Prod.mk.inj hp
    exact .inr ⟨p.1, p.2, p'.2, rfl, by rw [hl', ← hi], he.symm⟩

/-- **One request** does the same to like rosters, and gets like answers. -/
theorem answer_alike (h : es.map bare = es'.map bare) (request : Request α) (s s' : Stage) :
    (answer request es s).1.bare = (answer request es' s').1.bare ∧
      (answer request es s).2.1.map bare = (answer request es' s').2.1.map bare := by
  -- whether a request is granted depends on places and names, which are the same
  cases request with
  | create e =>
    have hafter : (es ++ [(Entity.enter e s).1]).map bare =
        (es' ++ [(Entity.enter e s').1]).map bare := by
      simp [h, Outlined.bare_enter]
    simp only [answer, create, names_congr h]
    by_cases he : Entity.name e ∈ names es'
    · simpa [he, Answer.bare] using h
    · simp only [he, if_false]
      exact ⟨congrArg Answer.entered (find?_congr hafter _), hafter⟩
  | replace key e =>
    rcases locate?_alike h key with ⟨hl, hl'⟩ | ⟨i, old, old', hl, hl', -⟩
    · simpa [answer, replace, hl, hl', Answer.bare] using h
    · have hafter : (es.set i (Entity.enter e (Entity.leave old s).2).1).map bare =
          (es'.set i (Entity.enter e (Entity.leave old' s').2).1).map bare :=
        set_congr h i (by rw [Outlined.bare_enter, Outlined.bare_enter])
      simp only [answer, replace, hl, hl', names_congr (eraseIdx_congr h i)]
      by_cases he : Entity.name e ∈ names (es'.eraseIdx i)
      · simpa [he, Answer.bare] using h
      · simp only [he, if_false]
        exact ⟨congrArg Answer.entered (find?_congr hafter _), hafter⟩
  | destroy key =>
    rcases locate?_alike h key with ⟨hl, hl'⟩ | ⟨i, e, e', hl, hl', he⟩
    · simpa [answer, destroy, hl, hl', Answer.bare] using h
    · simp [answer, destroy, hl, hl', Answer.bare, Outlined.bare_leave, he, eraseIdx_congr h i]
  | setVisible key visible =>
    rcases locate?_alike h key with ⟨hl, hl'⟩ | ⟨i, e, e', hl, hl', he⟩
    · simpa [answer, setVisible, hl, hl', Answer.bare] using h
    · have hshown := Outlined.bare_setVisible he visible s s'
      simp [answer, setVisible, hl, hl', Answer.bare, set_congr h i hshown]
  | clear => exact ⟨rfl, rfl⟩

omit [Outlined α] in
/-- What lasts goes on being true of all entities. -/
theorem answer_lasting {Fit P : α → Prop} (hP : Lasting Fit P) (hes : ∀ e ∈ es, P e)
    (request : Request α) (hfit : request.All Fit) (s : Stage) :
    ∀ e ∈ (answer request es s).2.1, P e := by
  cases request with
  | create e =>
    by_cases he : Entity.name e ∈ names es
    · simpa [answer, create, he] using hes
    · simp only [answer, create, if_neg he, List.forall_mem_append, List.forall_mem_singleton]
      exact ⟨hes, hP.enter e s hfit⟩
  | replace key e =>
    cases hl : locate? es key with
    | none => simpa [answer, replace, hl] using hes
    | some p =>
      by_cases he : Entity.name e ∈ names (es.eraseIdx p.1)
      · simpa [answer, replace, hl, he] using hes
      · simp only [answer, replace, hl, if_neg he]
        intro x hx
        rcases List.mem_or_eq_of_mem_set hx with hx | rfl
        · exact hes x hx
        · exact hP.enter e _ hfit
  | destroy key =>
    cases hl : locate? es key with
    | none => simpa [answer, destroy, hl] using hes
    | some p =>
      simp only [answer, destroy, hl, Option.map_some]
      exact fun x hx => hes x (List.mem_of_mem_eraseIdx hx)
  | setVisible key visible =>
    cases hl : locate? es key with
    | none => simpa [answer, setVisible, hl] using hes
    | some p =>
      simp only [answer, setVisible, hl, Option.map_some]
      intro x hx
      rcases List.mem_or_eq_of_mem_set hx with hx | rfl
      · exact hes x hx
      · exact hP.setVisible p.2 visible s (hes _ (List.mem_of_getElem? (locate?_eq_some.1 hl).2))
  | clear => exact fun x hx => absurd hx List.not_mem_nil

end Roster

/-! ### Registries -/

namespace Registry

/-- Two registries are the same but for the handles of the entities, of which something is true. -/
structure Alike (P : α → Prop) (r r' : Registry α) : Prop where
  rosters : ∃ es es', r.Lists es ∧ r'.Lists es' ∧ es.map bare = es'.map bare ∧
    (∀ e ∈ es, P e) ∧ ∀ e ∈ es', P e

namespace Alike

variable {Fit P : α → Prop} {r r' : Registry α}

theorem answer (h : r.Alike P r') (hP : Lasting Fit P) (request : Request α)
    (hfit : request.All Fit) (s s' : Stage) :
    (r.answer request s).1.bare = (r'.answer request s').1.bare ∧
      (r.answer request s).2.1.Alike P (r'.answer request s').2.1 := by
  obtain ⟨es, es', hr, hr', hbare, hes, hes'⟩ := h.rosters
  obtain ⟨hanswer, hlists, -⟩ := hr.answer request s
  obtain ⟨hanswer', hlists', -⟩ := hr'.answer request s'
  obtain ⟨hanswers, hrosters⟩ := Roster.answer_alike hbare request s s'
  refine ⟨by rw [hanswer, hanswer', hanswers], ⟨_, _, hlists, hlists', hrosters, ?_, ?_⟩⟩
  · exact Roster.answer_lasting hP hes request hfit s
  · exact Roster.answer_lasting hP hes' request hfit s'

theorem trans {r'' : Registry α} (h : r.Alike P r') (h' : r'.Alike P r'') : r.Alike P r'' := by
  obtain ⟨es, xs, hr, hxs, hbare, hes, -⟩ := h.rosters
  obtain ⟨xs', es'', hxs', hr'', hbare', -, hes''⟩ := h'.rosters
  -- a registry has one roster only
  have hsame : xs = xs' := by rw [← hxs.entities_eq, hxs'.entities_eq]
  exact ⟨es, es'', hr, hr'', by rw [hbare, hsame, hbare'], hes, hes''⟩

theorem mono {Q : α → Prop} (h : r.Alike P r') (hPQ : ∀ e, P e → Q e) : r.Alike Q r' := by
  obtain ⟨es, es', hr, hr', hbare, hes, hes'⟩ := h.rosters
  exact ⟨es, es', hr, hr', hbare, fun e he => hPQ e (hes e he), fun e he => hPQ e (hes' e he)⟩

theorem names_eq (h : r.Alike P r') : r.names = r'.names := by
  obtain ⟨es, es', hr, hr', hbare, -⟩ := h.rosters
  rw [names, names, hr.order, hr'.order, Roster.names_congr hbare]

theorem contains_eq (h : r.Alike P r') (key : String) : r.contains key = r'.contains key := by
  obtain ⟨es, es', hr, hr', hbare, -⟩ := h.rosters
  rw [contains, contains, hr.resolve_eq, hr'.resolve_eq]
  rcases Roster.locate?_alike hbare key with ⟨hl, hl'⟩ | ⟨i, e, e', hl, hl', -⟩ <;>
    simp [hl, hl']

/-- A key stands for like entities, or for none. -/
theorem get? (h : r.Alike P r') (key : String) :
    (r.get? key = none ∧ r'.get? key = none) ∨
      ∃ e e', r.get? key = some e ∧ r'.get? key = some e' ∧ bare e = bare e' ∧ P e ∧ P e' := by
  obtain ⟨es, es', hr, hr', hbare, hes, hes'⟩ := h.rosters
  rw [hr.get?_eq, hr'.get?_eq]
  rcases Roster.locate?_alike hbare key with ⟨hl, hl'⟩ | ⟨i, e, e', hl, hl', he⟩
  · exact .inl ⟨by rw [hl]; rfl, by rw [hl']; rfl⟩
  · have hmem := List.mem_of_getElem? (Roster.locate?_eq_some.1 hl).2
    have hmem' := List.mem_of_getElem? (Roster.locate?_eq_some.1 hl').2
    exact .inr ⟨e, e', by rw [hl]; rfl, by rw [hl']; rfl, he, hes e hmem, hes' e' hmem'⟩

theorem of_get? (h : r.Alike P r') {key : String} {e : α} (he : r.get? key = some e) : P e := by
  rcases h.get? key with ⟨hnone, -⟩ | ⟨x, -, hx, -, -, hP, -⟩
  · simp [hnone] at he
  · obtain rfl : x = e := Option.some.inj (hx.symm.trans he)
    exact hP

end Alike

end Registry

/-! ### Vectors, matrices and scenes -/

instance : Outlined Vector where
  bare := Vector.bare
  name_bare _ := rfl
  bare_enter v s := by
    show (v.enter s).1.bare = v.bare
    rw [Vector.enter_eq]
    rfl
  bare_leave v s := by
    show (v.leave s).1.bare = v.bare
    rw [Vector.leave_fst]
    rfl
  bare_setVisible h visible s s' := congrArg (fun v : Vector => { v with visible }) h

namespace Matrix

/-- The matrix without handles, and without its arrows. -/
def bare (m : Matrix) : Matrix := { m with handle := none, basis := [] }

/-- The arrows of a matrix are those along its basis vectors. -/
def Posed (m : Matrix) : Prop := m.basis.map Vector.bare = m.arrows

instance : Outlined Matrix where
  bare := bare
  name_bare _ := rfl
  bare_enter _ _ := rfl
  bare_leave _ _ := rfl
  bare_setVisible h visible _ _ := congrArg (fun m : Matrix => { m with visible }) h

theorem lasting_posed : Lasting (fun _ => True) Posed where
  enter m s _ := (m.standing_enter s).arrows
  setVisible _ visible s h := arrows_setVisible h visible s

end Matrix

theorem Vector.lasting_color (C : Color → Prop) :
    Lasting (fun v : Vector => C v.color) (fun v : Vector => C v.color) where
  enter v s hv := by
    show C (v.enter s).1.color
    rw [Vector.enter_eq]
    exact hv
  setVisible _ _ _ hv := hv

/-- Two scenes are the same but for handles, stages and menus, and the colors of the vectors are of
some kind. -/
structure State.Alike (C : Color → Prop) (s s' : State) : Prop where
  vectors : s.vectors.Alike (fun v => C v.color) s'.vectors
  matrices : s.matrices.Alike Matrix.Posed s'.matrices
  resultCount : s.resultCount = s'.resultCount
  randomCount : s.randomCount = s'.randomCount
  camera : s.camera = s'.camera
  settings : s.settings = s'.settings

/-- Results of two steps of which neither or both fail, with the same fault. -/
inductive Agree {ε β γ : Type} (R : β → γ → Prop) : Except ε β → Except ε γ → Prop where
  | ok {b : β} {c : γ} : R b c → Agree R (.ok b) (.ok c)
  | error (fault : ε) : Agree R (.error fault) (.error fault)

namespace Agree

variable {ε β γ β' γ' : Type} {R : β → γ → Prop} {S : β' → γ' → Prop}

theorem bind {x : Except ε β} {y : Except ε γ} (hxy : Agree R x y) {f : β → Except ε β'}
    {g : γ → Except ε γ'} (hfg : ∀ b c, R b c → Agree S (f b) (g c)) :
    Agree S (x >>= f) (y >>= g) := by
  cases hxy with
  | ok h => exact hfg _ _ h
  | error fault => exact .error fault

theorem bind_same {x : Except ε β} {f : β → Except ε β'} {g : β → Except ε γ'}
    (hfg : ∀ b, Agree S (f b) (g b)) : Agree S (x >>= f) (x >>= g) := by
  cases x with
  | ok b => exact hfg b
  | error fault => exact .error fault

end Agree

namespace State.Alike

variable {C : Color → Prop} {s s' : State}

/-- The scene without entities is like itself. -/
theorem empty (C : Color → Prop) : State.Alike C {} {} where
  vectors := ⟨[], [], Registry.lists_empty, Registry.lists_empty, rfl, by simp, by simp⟩
  matrices := ⟨[], [], Registry.lists_empty, Registry.lists_empty, rfl, by simp, by simp⟩
  resultCount := rfl
  randomCount := rfl
  camera := rfl
  settings := rfl

theorem trans {s'' : State} (h : s.Alike C s') (h' : s'.Alike C s'') : s.Alike C s'' where
  vectors := h.vectors.trans h'.vectors
  matrices := h.matrices.trans h'.matrices
  resultCount := h.resultCount.trans h'.resultCount
  randomCount := h.randomCount.trans h'.randomCount
  camera := h.camera.trans h'.camera
  settings := h.settings.trans h'.settings

theorem mono {D : Color → Prop} (h : s.Alike C s') (hCD : ∀ c, C c → D c) : s.Alike D s' :=
  { h with vectors := h.vectors.mono fun v => hCD v.color }

theorem askVectors (h : s.Alike C s') (request : Request Vector)
    (hC : request.All fun v => C v.color) :
    (s.askVectors request).Alike C (s'.askVectors request) :=
  { h with vectors := (h.vectors.answer (Vector.lasting_color C) request hC _ _).2 }

theorem askMatrices (h : s.Alike C s') (request : Request Matrix) :
    (s.askMatrices request).Alike C (s'.askMatrices request) := by
  have hfit : request.All fun _ => True := by cases request <;> trivial
  exact { h with matrices := (h.matrices.answer Matrix.lasting_posed request hfit _ _).2 }

theorem vectors_answer (h : s.Alike C s') (request : Request Vector)
    (hC : request.All fun v => C v.color) :
    (s.vectors.answer request s.stage).1.bare = (s'.vectors.answer request s'.stage).1.bare :=
  (h.vectors.answer (Vector.lasting_color C) request hC _ _).1

theorem matrices_answer (h : s.Alike C s') (request : Request Matrix) :
    (s.matrices.answer request s.stage).1.bare = (s'.matrices.answer request s'.stage).1.bare := by
  have hfit : request.All fun _ => True := by cases request <;> trivial
  exact (h.matrices.answer Matrix.lasting_posed request hfit _ _).1

theorem createVector (h : s.Alike C s') {v : Vector} (hv : C v.color) :
    Agree (State.Alike C) (s.createVector v) (s'.createVector v) := by
  have hfault := congrArg Answer.fault? (h.vectors_answer (.create v) hv)
  rw [Answer.fault?_bare, Answer.fault?_bare] at hfault
  rw [createVector_eq, createVector_eq, hfault]
  cases (s'.vectors.answer (.create v) s'.stage).1.fault? with
  | none => exact .ok (h.askVectors (.create v) hv)
  | some fault => exact .error fault

theorem replaceVector (h : s.Alike C s') (key : String) {v : Vector} (hv : C v.color) :
    Agree (State.Alike C) (s.replaceVector key v) (s'.replaceVector key v) := by
  have hfault := congrArg Answer.fault? (h.vectors_answer (.replace key v) hv)
  rw [Answer.fault?_bare, Answer.fault?_bare] at hfault
  rw [replaceVector_eq, replaceVector_eq, hfault]
  cases (s'.vectors.answer (.replace key v) s'.stage).1.fault? with
  | none => exact .ok (h.askVectors (.replace key v) hv)
  | some fault => exact .error fault

theorem createMatrix (h : s.Alike C s') (m : Matrix) :
    Agree (State.Alike C) (s.createMatrix m) (s'.createMatrix m) := by
  have hfault := congrArg Answer.fault? (h.matrices_answer (.create m))
  rw [Answer.fault?_bare, Answer.fault?_bare] at hfault
  rw [createMatrix_eq, createMatrix_eq, hfault]
  cases (s'.matrices.answer (.create m) s'.stage).1.fault? with
  | none => exact .ok (h.askMatrices (.create m))
  | some fault => exact .error fault

theorem replaceMatrix (h : s.Alike C s') (key : String) (m : Matrix) :
    Agree (State.Alike C) (s.replaceMatrix key m) (s'.replaceMatrix key m) := by
  have hfault := congrArg Answer.fault? (h.matrices_answer (.replace key m))
  rw [Answer.fault?_bare, Answer.fault?_bare] at hfault
  rw [replaceMatrix_eq, replaceMatrix_eq, hfault]
  cases (s'.matrices.answer (.replace key m) s'.stage).1.fault? with
  | none => exact .ok (h.askMatrices (.replace key m))
  | some fault => exact .error fault

/-- Like vectors are taken away, or none. -/
theorem destroyVector (h : s.Alike C s') (key : String) :
    (s.destroyVector key = none ∧ s'.destroyVector key = none) ∨
      ∃ v v' t t', s.destroyVector key = some (v, t) ∧ s'.destroyVector key = some (v', t') ∧
        v.name = v'.name ∧ t.Alike C t' := by
  have hgone := congrArg Answer.gone? (h.vectors_answer (.destroy key) trivial)
  rw [Answer.gone?_bare, Answer.gone?_bare] at hgone
  rw [destroyVector_eq, destroyVector_eq]
  cases hv : (s.vectors.answer (.destroy key) s.stage).1.gone? with
  | none =>
    rw [hv, Option.map_none] at hgone
    rw [Option.map_eq_none_iff.1 hgone.symm]
    exact .inl ⟨rfl, rfl⟩
  | some v =>
    rw [hv, Option.map_some] at hgone
    obtain ⟨v', hv', hbare⟩ := Option.map_eq_some_iff.1 hgone.symm
    rw [hv']
    exact .inr ⟨v, v', _, _, rfl, rfl, (Outlined.name_congr hbare).symm,
      h.askVectors (.destroy key) trivial⟩

/-- Like matrices are taken away, or none. -/
theorem destroyMatrix (h : s.Alike C s') (key : String) :
    (s.destroyMatrix key = none ∧ s'.destroyMatrix key = none) ∨
      ∃ m m' t t', s.destroyMatrix key = some (m, t) ∧ s'.destroyMatrix key = some (m', t') ∧
        m.name = m'.name ∧ t.Alike C t' := by
  have hgone := congrArg Answer.gone? (h.matrices_answer (.destroy key))
  rw [Answer.gone?_bare, Answer.gone?_bare] at hgone
  rw [destroyMatrix_eq, destroyMatrix_eq]
  cases hm : (s.matrices.answer (.destroy key) s.stage).1.gone? with
  | none =>
    rw [hm, Option.map_none] at hgone
    rw [Option.map_eq_none_iff.1 hgone.symm]
    exact .inl ⟨rfl, rfl⟩
  | some m =>
    rw [hm, Option.map_some] at hgone
    obtain ⟨m', hm', hbare⟩ := Option.map_eq_some_iff.1 hgone.symm
    rw [hm']
    exact .inr ⟨m, m', _, _, rfl, rfl, (Outlined.name_congr hbare).symm,
      h.askMatrices (.destroy key)⟩

/-- A vector is shown or hidden in both scenes, or in none. -/
theorem showVector (h : s.Alike C s') (key : String) (visible : Bool) :
    (s.showVector key visible = none ∧ s'.showVector key visible = none) ∨
      ∃ t t', s.showVector key visible = some t ∧ s'.showVector key visible = some t' ∧
        t.Alike C t' := by
  have hfound := congrArg Answer.found (h.vectors_answer (.setVisible key visible) trivial)
  rw [Answer.found_bare, Answer.found_bare] at hfound
  rw [showVector_eq, showVector_eq, hfound]
  cases (s'.vectors.answer (.setVisible key visible) s'.stage).1.found with
  | false => exact .inl ⟨rfl, rfl⟩
  | true => exact .inr ⟨_, _, rfl, rfl, h.askVectors (.setVisible key visible) trivial⟩

/-- A matrix is shown or hidden in both scenes, or in none. -/
theorem showMatrix (h : s.Alike C s') (key : String) (visible : Bool) :
    (s.showMatrix key visible = none ∧ s'.showMatrix key visible = none) ∨
      ∃ t t', s.showMatrix key visible = some t ∧ s'.showMatrix key visible = some t' ∧
        t.Alike C t' := by
  have hfound := congrArg Answer.found (h.matrices_answer (.setVisible key visible))
  rw [Answer.found_bare, Answer.found_bare] at hfound
  rw [showMatrix_eq, showMatrix_eq, hfound]
  cases (s'.matrices.answer (.setVisible key visible) s'.stage).1.found with
  | false => exact .inl ⟨rfl, rfl⟩
  | true => exact .inr ⟨_, _, rfl, rfl, h.askMatrices (.setVisible key visible)⟩

theorem clear (h : s.Alike C s') : s.clear.Alike C s'.clear := by
  have hclear := (h.askVectors .clear trivial).askMatrices .clear
  rw [clear_eq, clear_eq]
  exact { hclear with resultCount := rfl, randomCount := rfl }

end State.Alike

/-! ### Every field but handles -/

/-- The matrix without handles. Its arrows stay, without handles too. -/
def Matrix.detached (m : Matrix) : Matrix :=
  { m with handle := none, basis := m.basis.map Vector.bare }

/-- The arrows of a matrix follow from the rest. -/
theorem Matrix.detached_of_posed {m : Matrix} (h : m.Posed) :
    m.detached = { m.bare with basis := m.bare.arrows } := by
  have harrows : m.basis.map Vector.bare = m.bare.arrows := h
  rw [← harrows]
  rfl

/-- Two scenes have the same entities in the same order, in every field but the handles, and the
same counters, camera and settings. -/
structure State.Mirrors (s s' : State) : Prop where
  vectorNames : s.vectors.names = s'.vectors.names
  vectors : s.vectors.entities.map Vector.bare = s'.vectors.entities.map Vector.bare
  matrixNames : s.matrices.names = s'.matrices.names
  matrices : s.matrices.entities.map Matrix.detached = s'.matrices.entities.map Matrix.detached
  resultCount : s.resultCount = s'.resultCount
  randomCount : s.randomCount = s'.randomCount
  camera : s.camera = s'.camera
  settings : s.settings = s'.settings

theorem State.Alike.mirrors {C : Color → Prop} {s s' : State} (h : s.Alike C s') :
    s.Mirrors s' where
  vectorNames := h.vectors.names_eq
  vectors := by
    obtain ⟨vs, vs', hvs, hvs', hbare, -⟩ := h.vectors.rosters
    rw [hvs.entities_eq, hvs'.entities_eq]
    exact hbare
  matrixNames := h.matrices.names_eq
  matrices := by
    obtain ⟨ms, ms', hms, hms', hbare, hposed, hposed'⟩ := h.matrices.rosters
    have hbare : ms.map Matrix.bare = ms'.map Matrix.bare := hbare
    have hdetached : ∀ l : List Matrix, (∀ m ∈ l, m.Posed) → l.map Matrix.detached =
        (l.map Matrix.bare).map fun m => { m with basis := m.arrows } := by
      intro l hl
      rw [List.map_map]
      exact List.map_congr_left fun m hm => Matrix.detached_of_posed (hl m hm)
    rw [hms.entities_eq, hms'.entities_eq, hdetached ms hposed, hdetached ms' hposed', hbare]
  resultCount := h.resultCount
  randomCount := h.randomCount
  camera := h.camera
  settings := h.settings

end VectorScene.Scene
