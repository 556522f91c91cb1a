import VectorScene.Proofs.Scene.Accounts
import VectorScene.Proofs.Scene.Asking

/-!
# The handles of a scene

A scene shares one stage between its vectors and its matrices, and someone else may take handles off
that stage at any time. Whatever happens, what the entities hold and what stands on the stage stay
in step: nothing is left behind on the stage, and no handle has two owners.

## Main definitions

* `Roster.Staged`: a roster is on a stage that it shares with others
* `Event`: what a scene is asked, and what someone else does to its stage
* `State.run`: events one after another, with the handles that someone else removed
* `State.Orderly`: who holds what, and what stands on the stage

## Main results

* `Roster.Staged.answer`: one request to a roster, whatever others hold
* `State.Sound.after`: one event of a scene
* `State.run_orderly`: every run of events
-/

namespace VectorScene.Scene

/-! ### Rosters on a shared stage -/

section Rosters

variable {α : Type} [Entity α] [Holder α] {earlier : Moment} {removed : List Handle}
  {others : List (Handle × Representation)} {es : List α} {s : Stage}

/-- A new entity holds nothing yet. -/
def Request.Idle (request : Request α) : Prop := request.All fun e => Holder.held e = []

namespace Roster

/-- All that the entities of a roster hold. -/
def held (es : List α) : List (Handle × Representation) := es.flatMap Holder.held

/-- What a roster holds is what one of its entities holds and what the others hold. -/
theorem held_split (front : List α) (e : α) (back : List α)
    (others : List (Handle × Representation)) :
    (held (front ++ e :: back) ++ others).Perm
      (Holder.held e ++ (held (front ++ back) ++ others)) := by
  simp only [held, List.flatMap_append, List.flatMap_cons, List.append_assoc]
  exact List.perm_append_comm_assoc _ _ _

/-- A roster is on a stage that it shares with others. -/
structure Staged (earlier : Moment) (removed : List Handle)
    (others : List (Handle × Representation)) (es : List α) (s : Stage) : Prop where
  accounts : s.Accounts earlier removed (held es ++ others)
  standing : ∀ e ∈ es, Holder.Standing e

namespace Staged

/-- An entity that stands takes its place among the entities of a roster. -/
theorem insert {front back : List α} {e : α}
    (hs : s.Accounts earlier removed (Holder.held e ++ (held (front ++ back) ++ others)))
    (he : Holder.Standing e) (hothers : ∀ x ∈ front ++ back, Holder.Standing x) :
    Staged earlier removed others (front ++ e :: back) s where
  accounts := hs.perm (held_split front e back others).symm
  standing x hx := by
    rcases List.mem_cons.1 ((List.perm_middle (a := e)).mem_iff.1 hx) with rfl | hx
    · exact he
    · exact hothers x hx

theorem enter {front back : List α} {e : α} (he : Holder.held e = [])
    (h : Staged earlier removed others (front ++ back) s) :
    Staged earlier removed others (front ++ (Entity.enter e s).1 :: back) (Entity.enter e s).2 := by
  have hs : s.Accounts earlier removed (Holder.held e ++ (held (front ++ back) ++ others)) := by
    rw [he]
    exact h.accounts
  exact insert (Holder.accounts_enter e hs) (Holder.standing_enter e s) h.standing

theorem standing_others {front back : List α} {e : α}
    (h : Staged earlier removed others (front ++ e :: back) s) :
    ∀ x ∈ front ++ back, Holder.Standing x := fun x hx =>
  h.standing x (((List.perm_middle (a := e)).mem_iff).2 (List.mem_cons_of_mem _ hx))

theorem leave {front back : List α} {e : α}
    (h : Staged earlier removed others (front ++ e :: back) s) :
    Staged earlier removed others (front ++ back) (Entity.leave e s).2 where
  accounts := Holder.accounts_leave e (h.accounts.perm (held_split front e back others))
  standing := h.standing_others

theorem setVisible {front back : List α} {e : α}
    (h : Staged earlier removed others (front ++ e :: back) s) (visible : Bool) :
    Staged earlier removed others (front ++ (Entity.setVisible e visible s).1 :: back)
      (Entity.setVisible e visible s).2 :=
  insert
    (Holder.accounts_setVisible e visible (h.accounts.perm (held_split front e back others)))
    (Holder.standing_setVisible (h.standing e (by simp)) visible s) h.standing_others

theorem clear (h : Staged earlier removed others es s) :
    Staged earlier removed others ([] : List α) (Roster.clear es s) := by
  induction es generalizing s with
  | nil => exact h
  | cons e rest ih =>
    have hfirst : Staged earlier removed others ([] ++ e :: rest) s := h
    exact ih hfirst.leave

/-- **One request** to a roster keeps it on the stage, whatever others hold there. -/
theorem answer (h : Staged earlier removed others es s) (request : Request α)
    (idle : request.Idle) :
    Staged earlier removed others (Roster.answer request es s).2.1
      (Roster.answer request es s).2.2 := by
  cases request with
  | create e =>
    by_cases he : Entity.name e ∈ names es
    · simpa [Roster.answer, Roster.create, he] using h
    · -- the place of a new entity is behind all others
      rw [← List.append_nil es] at h
      simpa [Roster.answer, Roster.create, he] using enter idle h
  | replace key e =>
    cases hk : locate? es key with
    | none => simpa [Roster.answer, Roster.replace, hk] using h
    | some p =>
      obtain ⟨i, old⟩ := p
      by_cases he : Entity.name e ∈ names (es.eraseIdx i)
      · simpa [Roster.answer, Roster.replace, hk, he] using h
      · obtain ⟨front, back, rfl, rfl⟩ := exists_split (locate?_eq_some.1 hk).2
        -- the old entity leaves its place, and the new one enters there
        simp only [Roster.answer, Roster.replace, hk, if_neg he, set_split]
        exact enter idle (leave h)
  | destroy key =>
    cases hk : locate? es key with
    | none => simpa [Roster.answer, Roster.destroy, hk] using h
    | some p =>
      obtain ⟨i, e⟩ := p
      obtain ⟨front, back, rfl, rfl⟩ := exists_split (locate?_eq_some.1 hk).2
      simp only [Roster.answer, Roster.destroy, hk, Option.map_some, eraseIdx_split]
      exact leave h
  | setVisible key visible =>
    cases hk : locate? es key with
    | none => simpa [Roster.answer, Roster.setVisible, hk] using h
    | some p =>
      obtain ⟨i, e⟩ := p
      obtain ⟨front, back, rfl, rfl⟩ := exists_split (locate?_eq_some.1 hk).2
      simp only [Roster.answer, Roster.setVisible, hk, Option.map_some, set_split]
      exact setVisible h visible
  | clear => exact clear h

end Staged

end Roster

end Rosters

/-! ### Events of a scene -/

/-- What a scene is asked, with new entities that have no handle yet, and what someone else does to
its stage. -/
inductive Event where
  | createVector (v : Vector) (idle : v.handle = none)
  | replaceVector (key : String) (v : Vector) (idle : v.handle = none)
  | destroyVector (key : String)
  | showVector (key : String) (visible : Bool)
  | createMatrix (m : Matrix) (idle : m.handle = none ∧ m.basis = [])
  | replaceMatrix (key : String) (m : Matrix) (idle : m.handle = none ∧ m.basis = [])
  | destroyMatrix (key : String)
  | showMatrix (key : String) (visible : Bool)
  | clear
  /-- Someone else takes a handle off the stage. -/
  | outside (h : Handle)

namespace State

/-- The scene after an event; a request that is refused leaves it as it was. -/
def after (s : State) : Event → State
  | .createVector v _ => (s.createVector v).toOption.getD s
  | .replaceVector key v _ => (s.replaceVector key v).toOption.getD s
  | .destroyVector key => ((s.destroyVector key).map (·.2)).getD s
  | .showVector key visible => (s.showVector key visible).getD s
  | .createMatrix m _ => (s.createMatrix m).toOption.getD s
  | .replaceMatrix key m _ => (s.replaceMatrix key m).toOption.getD s
  | .destroyMatrix key => ((s.destroyMatrix key).map (·.2)).getD s
  | .showMatrix key visible => (s.showMatrix key visible).getD s
  | .clear => s.clear
  | .outside h => { s with stage := s.stage.leave h }

/-- The handles that someone else has removed so far, after an event. -/
def removedAfter (s : State) (removed : List Handle) : Event → List Handle
  | .outside h => if (s.stage.get? h).isSome then h :: removed else removed
  | _ => removed

/-- Events one after another, with the handles that someone else removed so far. -/
def play : List Event → State × List Handle → State × List Handle
  | [], p => p
  | event :: rest, (s, removed) => play rest (s.after event, s.removedAfter removed event)

/-- Events one after another, from the empty scene. -/
def run (events : List Event) : State × List Handle := play events ({}, [])

theorem play_append (before after : List Event) (p : State × List Handle) :
    play (before ++ after) p = play after (play before p) := by
  induction before generalizing p with
  | nil => rfl
  | cons event rest ih => exact ih _

/-- Who holds what: each handle with the name of its owner. -/
def owners (s : State) : List (Handle × String) :=
  (s.vectors.entities.flatMap fun v => v.handle.toList.map (·, v.name)) ++
    s.matrices.entities.flatMap fun m => m.handle.toList.map (·, m.name) ++
      m.basis.flatMap fun a => a.handle.toList.map (·, a.name)

/-- The handles that the entities of a scene hold. -/
def handles (s : State) : List Handle := s.owners.map (·.1)

/-! ### One event -/

/-- The events of a scene are requests to one of its registries, to both, or to the stage. -/
theorem after_eq (s : State) (event : Event) : s.after event = match event with
    | .createVector v _ => s.askVectors (.create v)
    | .replaceVector key v _ => s.askVectors (.replace key v)
    | .destroyVector key => s.askVectors (.destroy key)
    | .showVector key visible => s.askVectors (.setVisible key visible)
    | .createMatrix m _ => s.askMatrices (.create m)
    | .replaceMatrix key m _ => s.askMatrices (.replace key m)
    | .destroyMatrix key => s.askMatrices (.destroy key)
    | .showMatrix key visible => s.askMatrices (.setVisible key visible)
    | .clear => { (s.askVectors .clear).askMatrices .clear with
        resultCount := 0, randomCount := 0, menuStale := true }
    | .outside h => { s with stage := s.stage.leave h } := by
  cases event with
  | createVector v _ =>
    simp only [after, createVector, askVectors, Registry.answer]
    cases s.vectors.create v s.stage <;> rfl
  | replaceVector key v _ =>
    simp only [after, replaceVector, askVectors, Registry.answer]
    cases s.vectors.replace key v s.stage <;> rfl
  | destroyVector key =>
    simp only [after, destroyVector, askVectors, Registry.answer]
    cases s.vectors.destroy key s.stage <;> rfl
  | showVector key visible =>
    simp only [after, showVector, askVectors, Registry.answer]
    cases s.vectors.setVisible key visible s.stage <;> rfl
  | createMatrix m _ =>
    simp only [after, createMatrix, askMatrices, Registry.answer]
    cases s.matrices.create m s.stage <;> rfl
  | replaceMatrix key m _ =>
    simp only [after, replaceMatrix, askMatrices, Registry.answer]
    cases s.matrices.replace key m s.stage <;> rfl
  | destroyMatrix key =>
    simp only [after, destroyMatrix, askMatrices, Registry.answer]
    cases s.matrices.destroy key s.stage <;> rfl
  | showMatrix key visible =>
    simp only [after, showMatrix, askMatrices, Registry.answer]
    cases s.matrices.setVisible key visible s.stage <;> rfl
  | clear => rfl
  | outside h => rfl

/-- The rosters of a scene are on its stage together. -/
structure Sound (earlier : Moment) (removed : List Handle) (vs : List Vector) (ms : List Matrix)
    (s : State) : Prop where
  vectors : s.vectors.Lists vs
  matrices : s.matrices.Lists ms
  accounts : s.stage.Accounts earlier removed (Roster.held vs ++ Roster.held ms)
  vectors_standing : ∀ v ∈ vs, Holder.Standing v
  matrices_standing : ∀ m ∈ ms, Holder.Standing m

namespace Sound

variable {earlier : Moment} {removed : List Handle} {vs : List Vector} {ms : List Matrix}
  {s : State}

theorem askVectors (h : s.Sound earlier removed vs ms) (request : Request Vector)
    (idle : request.Idle) :
    (s.askVectors request).Sound earlier removed (Roster.answer request vs s.stage).2.1 ms := by
  obtain ⟨-, hlists, hstage⟩ := h.vectors.answer request s.stage
  -- seen from the vectors, what the matrices hold is what others hold
  have hstaged := (Roster.Staged.mk h.accounts h.vectors_standing).answer request idle
  rw [← hstage] at hstaged
  exact ⟨hlists, h.matrices, hstaged.accounts, hstaged.standing, h.matrices_standing⟩

theorem askMatrices (h : s.Sound earlier removed vs ms) (request : Request Matrix)
    (idle : request.Idle) :
    (s.askMatrices request).Sound earlier removed vs (Roster.answer request ms s.stage).2.1 := by
  obtain ⟨-, hlists, hstage⟩ := h.matrices.answer request s.stage
  -- seen from the matrices, what the vectors hold is what others hold
  have hstaged := (Roster.Staged.mk (h.accounts.perm List.perm_append_comm)
    h.matrices_standing).answer request idle
  rw [← hstage] at hstaged
  exact ⟨h.vectors, hlists, hstaged.accounts.perm List.perm_append_comm, h.vectors_standing,
    hstaged.standing⟩

/-- **One event** keeps the rosters of a scene on its stage together. -/
theorem after (h : s.Sound earlier removed vs ms) (event : Event) :
    ∃ vs' ms', (s.after event).Sound earlier (s.removedAfter removed event) vs' ms' := by
  rw [after_eq]
  cases event with
  | createVector v idle => exact ⟨_, _, h.askVectors (.create v) (Vector.held_of_idle idle)⟩
  | replaceVector key v idle =>
    exact ⟨_, _, h.askVectors (.replace key v) (Vector.held_of_idle idle)⟩
  | destroyVector key => exact ⟨_, _, h.askVectors (.destroy key) trivial⟩
  | showVector key visible => exact ⟨_, _, h.askVectors (.setVisible key visible) trivial⟩
  | createMatrix m idle => exact ⟨_, _, h.askMatrices (.create m) (Matrix.held_of_idle idle)⟩
  | replaceMatrix key m idle =>
    exact ⟨_, _, h.askMatrices (.replace key m) (Matrix.held_of_idle idle)⟩
  | destroyMatrix key => exact ⟨_, _, h.askMatrices (.destroy key) trivial⟩
  | showMatrix key visible => exact ⟨_, _, h.askMatrices (.setVisible key visible) trivial⟩
  | clear =>
    have hclear := (h.askVectors .clear trivial).askMatrices .clear trivial
    exact ⟨_, _, hclear.vectors, hclear.matrices, hclear.accounts, hclear.vectors_standing,
      hclear.matrices_standing⟩
  | outside handle =>
    exact ⟨_, _, h.vectors, h.matrices, h.accounts.outside handle, h.vectors_standing,
      h.matrices_standing⟩

/-- Events one after another keep them so. -/
theorem play (h : s.Sound earlier removed vs ms) (events : List Event) :
    ∃ vs' ms', (State.play events (s, removed)).1.Sound earlier
      (State.play events (s, removed)).2 vs' ms' := by
  induction events generalizing s removed vs ms with
  | nil => exact ⟨vs, ms, h⟩
  | cons event rest ih =>
    obtain ⟨vs', ms', hevent⟩ := h.after event
    exact ih hevent

/-- From here on, handles are compared to this moment. -/
theorem mark (h : s.Sound earlier removed vs ms) :
    s.Sound ⟨s.stage.entered, Roster.held vs ++ Roster.held ms⟩ removed vs ms :=
  ⟨h.vectors, h.matrices, h.accounts.mark, h.vectors_standing, h.matrices_standing⟩

theorem owners_eq (h : s.Sound earlier removed vs ms) :
    s.owners = (Roster.held vs ++ Roster.held ms).map fun p => (p.1, p.2.label) := by
  rw [owners, h.vectors.entities_eq, h.matrices.entities_eq]
  simp [Roster.held, Holder.held, Vector.held, Matrix.held, List.map_flatMap, Function.comp_def]

theorem handles_eq (h : s.Sound earlier removed vs ms) :
    s.handles = (Roster.held vs ++ Roster.held ms).map (·.1) := by
  rw [handles, h.owners_eq, List.map_map]
  rfl

/-- Handles are held by their owners of an earlier moment, or were given since. -/
theorem owners_explained (h : s.Sound earlier removed vs ms) {p : Handle × String}
    (hp : p ∈ s.owners) :
    earlier.entered ≤ p.1 ∨ p ∈ earlier.held.map fun q => (q.1, q.2.label) := by
  rw [h.owners_eq] at hp
  obtain ⟨q, hq, rfl⟩ := List.mem_map.1 hp
  rcases h.accounts.explained q hq with hnew | ⟨old, hold, hhandle, hlabel⟩
  · exact .inl hnew
  · refine .inr (List.mem_map.2 ⟨old, hold, ?_⟩)
    rw [hhandle, hlabel]

end Sound

/-! ### Every run -/

/-- Who holds what, and what stands on the stage: no handle has two owners, what is held stands
there but for what someone else removed, and nothing else does. -/
structure Orderly (removed : List Handle) (s : State) : Prop where
  distinct : s.handles.Nodup
  live : (s.stage.live.map (·.1)).Perm (s.handles.filter (· ∉ removed))
  vector : ∀ v ∈ s.vectors.entities, ∃ h, v.handle = some h ∧
    s.stage.get? h = if h ∈ removed then none else some ⟨v.name, v.visible⟩
  matrix : ∀ m ∈ s.matrices.entities, ∃ h, m.handle = some h ∧
    s.stage.get? h = if h ∈ removed then none else some ⟨m.name, m.visible⟩
  arrow : ∀ m ∈ s.matrices.entities, ∀ a ∈ m.basis, ∃ h, a.handle = some h ∧
    s.stage.get? h = if h ∈ removed then none else some ⟨a.name, a.visible⟩
  /-- A matrix has three arrows, from its position along its basis vectors. -/
  basis : ∀ m ∈ s.matrices.entities,
    m.basis.map (fun a => (a.name, a.start, a.tip, a.visible)) =
      let origin := m.transform.position
      [(m.name ++ ".x", origin, origin + m.transform.left, m.visible),
        (m.name ++ ".y", origin, origin + m.transform.up, m.visible),
        (m.name ++ ".z", origin, origin + m.transform.forward, m.visible)]
  balance : s.stage.entered = s.stage.left + s.stage.live.length

theorem Sound.orderly {earlier : Moment} {removed : List Handle} {vs : List Vector}
    {ms : List Matrix} {s : State} (h : s.Sound earlier removed vs ms) : s.Orderly removed where
  distinct := by
    rw [h.handles_eq]
    exact h.accounts.nodup
  live := by
    rw [h.handles_eq, List.filter_map]
    exact h.accounts.live.map _
  vector v hv := by
    rw [h.vectors.entities_eq] at hv
    obtain ⟨handle, hhandle⟩ := Option.isSome_iff_exists.1 (h.vectors_standing v hv)
    have hheld := List.mem_flatMap.2 ⟨v, hv, Vector.mem_held hhandle⟩
    exact ⟨handle, hhandle, h.accounts.get?_eq (List.mem_append_left _ hheld)⟩
  matrix m hm := by
    rw [h.matrices.entities_eq] at hm
    obtain ⟨handle, hhandle⟩ := Option.isSome_iff_exists.1 (h.matrices_standing m hm).handle
    have hheld := List.mem_flatMap.2 ⟨m, hm, Matrix.mem_held hhandle⟩
    exact ⟨handle, hhandle, h.accounts.get?_eq (List.mem_append_right _ hheld)⟩
  arrow m hm a ha := by
    rw [h.matrices.entities_eq] at hm
    obtain ⟨handle, hhandle⟩ :=
      Option.isSome_iff_exists.1 ((h.matrices_standing m hm).arrow_handle a ha)
    have hheld := List.mem_flatMap.2 ⟨m, hm, Matrix.mem_held_of_arrow ha hhandle⟩
    exact ⟨handle, hhandle, h.accounts.get?_eq (List.mem_append_right _ hheld)⟩
  basis m hm := by
    rw [h.matrices.entities_eq] at hm
    have hbare := congrArg (List.map fun a : Vector => (a.name, a.start, a.tip, a.visible))
      (h.matrices_standing m hm).arrows
    rw [List.map_map, m.arrows_shape] at hbare
    exact hbare
  balance := h.accounts.balance

theorem sound_empty : Sound ⟨0, []⟩ [] [] [] {} where
  vectors := Registry.lists_empty
  matrices := Registry.lists_empty
  accounts := Stage.Accounts.empty
  vectors_standing := by simp
  matrices_standing := by simp

/-- **Nothing is left behind on the stage, and nothing on it is shared.** After every run of events
the scene is orderly; each handle it holds was held by the same owner at every moment of the run at
which it had been given; and the stage got there by requests that never gave a handle twice, every
handle that is held being one of those. -/
theorem run_orderly (before after : List Event) :
    (run (before ++ after)).1.Orderly (run (before ++ after)).2 ∧
      (∀ p ∈ (run (before ++ after)).1.owners,
        (run before).1.stage.entered ≤ p.1 ∨ p ∈ (run before).1.owners) ∧
      ∃ calls, (Stage.play calls).2 = (run (before ++ after)).1.stage ∧
        (Stage.play calls).1.Nodup ∧
        ∀ h ∈ (run (before ++ after)).1.handles, h ∈ (Stage.play calls).1 := by
  obtain ⟨vs, ms, hbefore⟩ := sound_empty.play before
  -- the second part of the run is compared to the moment at its beginning
  obtain ⟨vs', ms', hafter⟩ := hbefore.mark.play after
  simp only [run, play_append]
  refine ⟨hafter.orderly, fun p hp => ?_, ?_⟩
  · rw [hbefore.owners_eq]
    exact hafter.owners_explained hp
  · obtain ⟨calls, hcalls⟩ := hafter.accounts.played
    refine ⟨calls, hcalls, ?_, fun h hh => ?_⟩
    · rw [Stage.play_given]
      exact List.nodup_range
    · rw [hafter.handles_eq] at hh
      obtain ⟨p, hp, rfl⟩ := List.mem_map.1 hh
      rw [Stage.play_given, hcalls, List.mem_range]
      exact hafter.accounts.below p hp

end State

end VectorScene.Scene
