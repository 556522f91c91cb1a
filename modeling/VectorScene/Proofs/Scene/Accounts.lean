import Mathlib.Data.List.Induction
import Mathlib.Data.List.Nodup
import Mathlib.Data.List.Perm.Basic
import VectorScene.Proofs.Scene.Roster
import VectorScene.Scene.Matrix

/-!
# Accounts of the stage

Entities hold the handles under which something of theirs stands on the stage. The accounts of the
stage compare the two sides: what is held, with the name and the visibility that the holder has, and
what stands there. Handles may also be taken off the stage by someone else; what is removed so is
part of the accounts. This module shows what each request to the stage does to the accounts, and
then what each request to an entity does, whatever else is held.

## Main definitions

* `Moment`: an earlier state of the accounts, to which the handles of now are compared
* `Stage.Accounts`: what is held and what stands on the stage agree
* `Holder`: entities whose handles are known, with what entering, leaving and showing do to the
  accounts
* `Matrix.Standing`: a matrix on the stage has its three arrows there

## Main results

* `Stage.Accounts.enter`, `.leave`, `.setVisible`, `.outside`: the requests to the stage
* `Holder Vector`, `Holder Matrix`: the requests to an entity
-/

namespace VectorScene.Scene

/-- An earlier state of the accounts: how much had entered, and who held what. -/
structure Moment where
  entered : Nat
  held : List (Handle × Representation)

/-- A handle is held for the name for which it was held at an earlier moment, or has been given
since. -/
def Moment.Explains (earlier : Moment) (p : Handle × Representation) : Prop :=
  earlier.entered ≤ p.1 ∨ ∃ q ∈ earlier.held, q.1 = p.1 ∧ q.2.label = p.2.label

namespace Stage

/-! ### The handles that were given -/

/-- The requests to a stage. -/
inductive Call where
  | enter (label : String) (visible : Bool)
  | leave (h : Handle)
  | setVisible (h : Handle) (visible : Bool)

/-- One request. Beside the stage stand the handles that were given so far, in their order. -/
def call (state : List Handle × Stage) : Call → List Handle × Stage
  | .enter label visible =>
    (state.1 ++ [(state.2.enter label visible).1], (state.2.enter label visible).2)
  | .leave h => (state.1, state.2.leave h)
  | .setVisible h visible => (state.1, state.2.setVisible h visible)

/-- Requests to the empty stage one after another. -/
def play (calls : List Call) : List Handle × Stage := calls.foldl call ([], empty)

theorem play_concat (calls : List Call) (c : Call) : play (calls ++ [c]) = call (play calls) c := by
  rw [play, List.foldl_append]
  rfl

theorem leave_entered (s : Stage) (h : Handle) : (s.leave h).entered = s.entered := by
  unfold leave
  split <;> rfl

/-- Handles are given in the order of the numbers, so none is given twice. -/
theorem play_given (calls : List Call) : (play calls).1 = List.range (play calls).2.entered := by
  induction calls using List.reverseRecOn with
  | nil => rfl
  | append_singleton calls c ih =>
    -- only entering gives a handle, and it gives the number of what has entered so far
    rw [play_concat]
    cases c with
    | enter label visible =>
      simp only [call, enter, ih]
      exact List.range_succ.symm
    | leave h => simp only [call, ih, leave_entered]
    | setVisible h visible => exact ih

/-! ### What is held and what stands there -/

/-- What is held and what stands on the stage agree, but for the handles that someone else
removed. -/
structure Accounts (earlier : Moment) (removed : List Handle)
    (held : List (Handle × Representation)) (s : Stage) : Prop where
  nodup : (held.map (·.1)).Nodup
  below : ∀ p ∈ held, p.1 < s.entered
  removed_below : ∀ h ∈ removed, h < s.entered
  live : s.live.Perm (held.filter (·.1 ∉ removed))
  balance : s.entered = s.left + s.live.length
  later : earlier.entered ≤ s.entered
  explained : ∀ p ∈ held, earlier.Explains p
  played : ∃ calls, (play calls).2 = s

theorem bne_key_of_notMem {held : List (Handle × Representation)} {h : Handle}
    (hm : h ∉ held.map (·.1)) {q : Handle × Representation} (hq : q ∈ held) :
    (q.1 != h) = true := by
  refine bne_iff_ne.2 fun heq => hm ?_
  rw [← heq]
  exact List.mem_map_of_mem hq

/-- Under different handles, what stands on the stage is one thing and all with another handle. -/
theorem perm_cons_filter {live : List (Handle × Representation)} (h : (live.map (·.1)).Nodup)
    {p : Handle × Representation} (hp : p ∈ live) :
    live.Perm (p :: live.filter (·.1 != p.1)) := by
  obtain ⟨front, back, rfl⟩ := List.append_of_mem hp
  have hmiddle : (front ++ p :: back).Perm (p :: (front ++ back)) := List.perm_middle
  have hnodup := ((hmiddle.map (·.1)).nodup_iff).1 h
  obtain ⟨hnot, -⟩ := List.nodup_cons.1 hnodup
  have hothers : (front ++ back).filter (·.1 != p.1) = front ++ back :=
    List.filter_eq_self.2 fun q hq => bne_key_of_notMem hnot hq
  refine hmiddle.trans (List.Perm.cons p ?_)
  rw [← hothers]
  simp

theorem leave_of_mem {s : Stage} {p : Handle × Representation} (hp : p ∈ s.live) :
    s.leave p.1 = { s with live := s.live.filter (·.1 != p.1), left := s.left + 1 } := by
  have hsome : (s.get? p.1).isSome := by
    rw [get?, List.lookup_isSome_iff]
    exact ⟨p, hp, beq_self_eq_true _⟩
  rw [leave, if_pos hsome]

theorem get?_of_notMem {s : Stage} {h : Handle} (hm : h ∉ s.live.map (·.1)) : s.get? h = none := by
  rw [get?, List.lookup_eq_none_iff]
  intro p hp
  have hne : h ≠ p.1 := fun heq => hm (heq ▸ List.mem_map_of_mem hp)
  exact bne_iff_ne.2 hne

theorem leave_of_notMem {s : Stage} {h : Handle} (hm : h ∉ s.live.map (·.1)) :
    s.leave h = { s with unknown := s.unknown ++ [h] } := by
  rw [leave, get?_of_notMem hm]
  rfl

namespace Accounts

variable {earlier : Moment} {removed : List Handle} {held : List (Handle × Representation)}
  {s : Stage}

theorem perm (hs : s.Accounts earlier removed held) {held' : List (Handle × Representation)}
    (hp : held.Perm held') : s.Accounts earlier removed held' where
  nodup := ((hp.map _).nodup_iff).1 hs.nodup
  below p hm := hs.below p (hp.mem_iff.2 hm)
  removed_below := hs.removed_below
  live := hs.live.trans (hp.filter _)
  balance := hs.balance
  later := hs.later
  explained p hm := hs.explained p (hp.mem_iff.2 hm)
  played := hs.played

theorem played_call (hs : s.Accounts earlier removed held) (c : Call) :
    ∃ calls, (play calls).2 = (call ([], s) c).2 := by
  obtain ⟨calls, rfl⟩ := hs.played
  refine ⟨calls ++ [c], ?_⟩
  rw [play_concat]
  cases c <;> rfl

/-- From here on, handles are compared to this moment. -/
theorem mark (hs : s.Accounts earlier removed held) : s.Accounts ⟨s.entered, held⟩ removed held :=
  { hs with
    later := Nat.le_refl _
    explained := fun p hp => .inr ⟨p, hp, rfl, rfl⟩ }

theorem empty : Stage.empty.Accounts ⟨0, []⟩ [] [] where
  nodup := .nil
  below := by simp
  removed_below := by simp
  live := .nil
  balance := rfl
  later := Nat.le_refl _
  explained := by simp
  played := ⟨[], rfl⟩

theorem nodup_live (hs : s.Accounts earlier removed held) : (s.live.map (·.1)).Nodup := by
  rw [(hs.live.map (·.1)).nodup_iff]
  exact (List.filter_sublist.map _).nodup hs.nodup

theorem mem_live_iff (hs : s.Accounts earlier removed held) {p : Handle × Representation} :
    p ∈ s.live ↔ p ∈ held ∧ p.1 ∉ removed := by
  rw [hs.live.mem_iff, List.mem_filter, decide_eq_true_iff]

theorem mem_handles_iff (hs : s.Accounts earlier removed held) {h : Handle} :
    h ∈ s.live.map (·.1) ↔ h ∈ held.map (·.1) ∧ h ∉ removed := by
  simp only [List.mem_map, hs.mem_live_iff]
  constructor
  · rintro ⟨p, ⟨hp, hr⟩, rfl⟩
    exact ⟨⟨p, hp, rfl⟩, hr⟩
  · rintro ⟨⟨p, hp, rfl⟩, hr⟩
    exact ⟨p, ⟨hp, hr⟩, rfl⟩

/-- What stands under a handle is what its holder has, unless it was removed. -/
theorem get?_eq (hs : s.Accounts earlier removed held) {p : Handle × Representation}
    (hp : p ∈ held) : s.get? p.1 = if p.1 ∈ removed then none else some p.2 := by
  by_cases hr : p.1 ∈ removed
  · rw [if_pos hr]
    refine get?_of_notMem fun hm => ?_
    exact (hs.mem_handles_iff.1 hm).2 hr
  · rw [if_neg hr, get?, lookup_eq_some_iff_mem hs.nodup_live]
    exact hs.mem_live_iff.2 ⟨hp, hr⟩

/-- Entering adds a holding under a handle that was not given before. -/
theorem enter (hs : s.Accounts earlier removed held) (label : String) (visible : Bool) :
    (s.enter label visible).2.Accounts earlier removed
      (((s.enter label visible).1, ⟨label, visible⟩) :: held) where
  nodup := by
    rw [List.map_cons, List.nodup_cons]
    refine ⟨fun hm => ?_, hs.nodup⟩
    obtain ⟨p, hp, heq⟩ := List.mem_map.1 hm
    exact Nat.ne_of_lt (hs.below p hp) heq
  below p hp := by
    rcases List.mem_cons.1 hp with rfl | hp
    · exact Nat.lt_succ_self _
    · exact Nat.lt_succ_of_lt (hs.below p hp)
  removed_below h hr := Nat.lt_succ_of_lt (hs.removed_below h hr)
  live := by
    -- what someone else removed had been given before, so it is not the new handle
    have hnew : s.entered ∉ removed := fun hr => Nat.lt_irrefl _ (hs.removed_below _ hr)
    simp only [Stage.enter, List.filter_cons, hnew, not_false_eq_true, decide_true, if_true]
    exact List.perm_append_comm.trans (hs.live.cons _)
  balance := by
    have := hs.balance
    simp only [Stage.enter, List.length_append, List.length_singleton]
    omega
  later := Nat.le_succ_of_le hs.later
  explained p hp := by
    rcases List.mem_cons.1 hp with rfl | hp
    · exact .inl hs.later
    · exact hs.explained p hp
  played := hs.played_call (.enter label visible)

theorem balance_leave (hs : s.Accounts earlier removed held) {p : Handle × Representation}
    (hp : p ∈ s.live) : s.entered = s.left + 1 + (s.live.filter (·.1 != p.1)).length := by
  have hlen := (perm_cons_filter hs.nodup_live hp).length_eq
  rw [List.length_cons] at hlen
  have hbalance := hs.balance
  omega

/-- Leaving under a handle that is held takes the holding away; if someone else removed it before,
nothing else happens. -/
theorem leave {p : Handle × Representation} (hs : s.Accounts earlier removed (p :: held)) :
    (s.leave p.1).Accounts earlier removed held := by
  obtain ⟨hnot, hnodup⟩ := List.nodup_cons.1 hs.nodup
  have hsub : ∀ q ∈ held, q ∈ p :: held := fun q hq => List.mem_cons_of_mem _ hq
  have hplayed := hs.played_call (.leave p.1)
  simp only [call] at hplayed
  by_cases hr : p.1 ∈ removed
  · -- nothing stands there any more, and the stage only takes note of the handle
    have hgone : p.1 ∉ s.live.map (·.1) := fun hm => (hs.mem_handles_iff.1 hm).2 hr
    rw [leave_of_notMem hgone] at hplayed ⊢
    refine ⟨hnodup, fun q hq => hs.below q (hsub q hq), hs.removed_below, ?_, hs.balance, hs.later,
      fun q hq => hs.explained q (hsub q hq), hplayed⟩
    simpa [List.filter_cons, hr] using hs.live
  · have hthere : p ∈ s.live := hs.mem_live_iff.2 ⟨List.mem_cons_self, hr⟩
    -- the handle is held once, so what is left on the stage is what the others hold
    have hleft : (s.live.filter (·.1 != p.1)).Perm (held.filter (·.1 ∉ removed)) := by
      have hothers : (held.filter (·.1 ∉ removed)).filter (·.1 != p.1) =
          held.filter (·.1 ∉ removed) :=
        List.filter_eq_self.2 fun q hq => bne_key_of_notMem hnot (List.mem_filter.1 hq).1
      have hfilter := hs.live.filter (·.1 != p.1)
      rwa [List.filter_cons_of_pos (by simpa), List.filter_cons_of_neg (by simp), hothers]
        at hfilter
    rw [leave_of_mem hthere] at hplayed ⊢
    exact ⟨hnodup, fun q hq => hs.below q (hsub q hq), hs.removed_below, hleft,
      hs.balance_leave hthere, hs.later, fun q hq => hs.explained q (hsub q hq), hplayed⟩

/-- Showing or hiding under a handle that is held changes the holding. -/
theorem setVisible {p : Handle × Representation} (hs : s.Accounts earlier removed (p :: held))
    (visible : Bool) :
    (s.setVisible p.1 visible).Accounts earlier removed
      ((p.1, { p.2 with visible }) :: held) := by
  obtain ⟨hnot, -⟩ := List.nodup_cons.1 hs.nodup
  refine ⟨hs.nodup, ?_, hs.removed_below, ?_, ?_, hs.later, ?_,
    hs.played_call (.setVisible p.1 visible)⟩
  · intro q hq
    rcases List.mem_cons.1 hq with rfl | hq
    · exact hs.below p List.mem_cons_self
    · exact hs.below q (List.mem_cons_of_mem _ hq)
  · -- what the others hold has other handles, so it is shown as before
    have hothers : ∀ q ∈ held.filter (·.1 ∉ removed),
        (if q.1 = p.1 then (q.1, { q.2 with visible }) else q) = id q := by
      intro q hq
      exact if_neg (bne_iff_ne.1 (bne_key_of_notMem hnot (List.mem_filter.1 hq).1))
    refine (hs.live.map _).trans (.of_eq ?_)
    by_cases hr : p.1 ∈ removed
    · rw [List.filter_cons_of_neg (by simpa), List.filter_cons_of_neg (by simpa),
        List.map_congr_left hothers, List.map_id]
    · rw [List.filter_cons_of_pos (by simpa), List.filter_cons_of_pos (by simpa), List.map_cons,
        if_pos rfl, List.map_congr_left hothers, List.map_id]
  · rw [Stage.setVisible, List.length_map]
    exact hs.balance
  · intro q hq
    rcases List.mem_cons.1 hq with rfl | hq
    · exact hs.explained p List.mem_cons_self
    · exact hs.explained q (List.mem_cons_of_mem _ hq)

/-- Someone else may take any handle off the stage; if something stood there, it is removed from now
on. -/
theorem outside (hs : s.Accounts earlier removed held) (h : Handle) :
    (s.leave h).Accounts earlier (if (s.get? h).isSome then h :: removed else removed) held := by
  have hplayed := hs.played_call (.leave h)
  simp only [call] at hplayed
  by_cases hthere : h ∈ s.live.map (·.1)
  · obtain ⟨p, hp, hk⟩ := List.mem_map.1 hthere
    subst hk
    obtain ⟨hheld, hr⟩ := hs.mem_live_iff.1 hp
    have hget : (s.get? p.1).isSome := by rw [hs.get?_eq hheld, if_neg hr]; rfl
    rw [leave_of_mem hp] at hplayed
    rw [if_pos hget, leave_of_mem hp]
    -- the holding stays in the accounts, but its handle is among the removed ones
    have hgone : (s.live.filter (·.1 != p.1)).Perm (held.filter (·.1 ∉ p.1 :: removed)) := by
      refine (hs.live.filter _).trans (.of_eq ?_)
      rw [List.filter_filter]
      refine List.filter_congr fun q _ => ?_
      by_cases hq : q.1 = p.1 <;> simp [hq]
    refine ⟨hs.nodup, hs.below, ?_, hgone, hs.balance_leave hp, hs.later, hs.explained,
      hplayed⟩
    intro g hg
    rcases List.mem_cons.1 hg with rfl | hg
    · exact hs.below p hheld
    · exact hs.removed_below g hg
  · rw [leave_of_notMem hthere] at hplayed
    rw [get?_of_notMem hthere, leave_of_notMem hthere]
    exact ⟨hs.nodup, hs.below, hs.removed_below, hs.live, hs.balance, hs.later, hs.explained,
      hplayed⟩

end Accounts

end Stage

/-! ### Vectors -/

variable {earlier : Moment} {removed : List Handle} {others : List (Handle × Representation)}
  {s : Stage}

namespace Vector

/-- What a vector holds. -/
def held (v : Vector) : List (Handle × Representation) :=
  v.handle.toList.map fun h => (h, ⟨v.name, v.visible⟩)

/-- The vector without its handle. -/
def bare (v : Vector) : Vector := { v with handle := none }

theorem held_of_handle {v : Vector} {h : Handle} (hv : v.handle = some h) :
    v.held = [(h, ⟨v.name, v.visible⟩)] := by
  rw [held, hv]
  rfl

theorem mem_held {v : Vector} {h : Handle} (hv : v.handle = some h) :
    (h, ⟨v.name, v.visible⟩) ∈ v.held := by
  rw [held_of_handle hv]
  exact List.mem_singleton_self _

theorem held_of_idle {v : Vector} (hv : v.handle = none) : v.held = [] := by
  rw [held, hv]
  rfl

theorem accounts_leave (v : Vector) (hs : s.Accounts earlier removed (v.held ++ others)) :
    (v.leave s).2.Accounts earlier removed others := by
  unfold leave
  cases hv : v.handle with
  | none =>
    rw [held_of_idle hv] at hs
    exact hs
  | some h =>
    rw [held_of_handle hv] at hs
    exact hs.leave

theorem leave_fst (v : Vector) (s : Stage) : (v.leave s).1 = v.bare := by
  unfold leave bare
  cases hv : v.handle with
  | none => exact congrArg (fun h => { v with handle := h }) hv
  | some h => rfl

theorem enter_eq (v : Vector) (s : Stage) :
    v.enter s = ({ v with handle := some ((v.leave s).2.enter v.name v.visible).1 },
      ((v.leave s).2.enter v.name v.visible).2) := by
  simp only [enter, leave_fst, bare]

theorem accounts_enter (v : Vector) (hs : s.Accounts earlier removed (v.held ++ others)) :
    (v.enter s).2.Accounts earlier removed ((v.enter s).1.held ++ others) := by
  rw [enter_eq]
  exact (v.accounts_leave hs).enter v.name v.visible

theorem accounts_setVisible (v : Vector) (visible : Bool)
    (hs : s.Accounts earlier removed (v.held ++ others)) :
    (v.setVisible visible s).2.Accounts earlier removed
      ((v.setVisible visible s).1.held ++ others) := by
  unfold setVisible
  cases hv : v.handle with
  | none =>
    rw [held_of_idle hv] at hs
    exact hs
  | some h =>
    rw [held_of_handle hv] at hs
    exact hs.setVisible visible

end Vector

/-! ### Vectors one after another -/

namespace Matrix

theorem enterAll_cons (v : Vector) (rest : List Vector) (s : Stage) :
    enterAll (v :: rest) s = ((v.enter s).1 :: (enterAll rest (v.enter s).2).1,
      (enterAll rest (v.enter s).2).2) := rfl

theorem showAll_cons (visible : Bool) (v : Vector) (rest : List Vector) (s : Stage) :
    showAll visible (v :: rest) s =
      ((v.setVisible visible s).1 :: (showAll visible rest (v.setVisible visible s).2).1,
        (showAll visible rest (v.setVisible visible s).2).2) := rfl

theorem accounts_leaveAll (vs : List Vector)
    (hs : s.Accounts earlier removed (vs.flatMap Vector.held ++ others)) :
    (leaveAll vs s).Accounts earlier removed others := by
  induction vs generalizing s with
  | nil => exact hs
  | cons v rest ih =>
    rw [List.flatMap_cons, List.append_assoc] at hs
    exact ih (v.accounts_leave hs)

theorem accounts_enterAll (vs : List Vector)
    (hs : s.Accounts earlier removed (vs.flatMap Vector.held ++ others)) :
    (enterAll vs s).2.Accounts earlier removed
      ((enterAll vs s).1.flatMap Vector.held ++ others) := by
  induction vs generalizing s others with
  | nil => exact hs
  | cons v rest ih =>
    rw [List.flatMap_cons, List.append_assoc] at hs
    have hfirst := v.accounts_enter hs
    -- the vectors behind enter while the first is among what others hold
    have hrest := ih (hfirst.perm (List.perm_append_comm_assoc _ _ _))
    simp only [enterAll_cons, List.flatMap_cons, List.append_assoc]
    exact hrest.perm (List.perm_append_comm_assoc _ _ _)

theorem accounts_showAll (visible : Bool) (vs : List Vector)
    (hs : s.Accounts earlier removed (vs.flatMap Vector.held ++ others)) :
    (showAll visible vs s).2.Accounts earlier removed
      ((showAll visible vs s).1.flatMap Vector.held ++ others) := by
  induction vs generalizing s others with
  | nil => exact hs
  | cons v rest ih =>
    rw [List.flatMap_cons, List.append_assoc] at hs
    have hfirst := v.accounts_setVisible visible hs
    -- as for entering, the first is now among the others
    have hrest := ih (hfirst.perm (List.perm_append_comm_assoc _ _ _))
    simp only [showAll_cons, List.flatMap_cons, List.append_assoc]
    exact hrest.perm (List.perm_append_comm_assoc _ _ _)

theorem enterAll_bare (vs : List Vector) (s : Stage) :
    (enterAll vs s).1.map Vector.bare = vs.map Vector.bare := by
  induction vs generalizing s with
  | nil => rfl
  | cons v rest ih =>
    simp only [enterAll_cons, List.map_cons, ih, Vector.enter_eq]
    rfl

theorem enterAll_handle (vs : List Vector) (s : Stage) :
    ∀ v ∈ (enterAll vs s).1, v.handle.isSome := by
  induction vs generalizing s with
  | nil => nofun
  | cons v rest ih =>
    simp only [enterAll_cons, List.forall_mem_cons, Vector.enter_eq, Option.isSome_some, true_and]
    exact ih _

theorem showAll_eq (visible : Bool) (vs : List Vector) (s : Stage) :
    (showAll visible vs s).1 = vs.map fun v => { v with visible } := by
  induction vs generalizing s with
  | nil => rfl
  | cons v rest ih =>
    rw [showAll_cons, ih]
    rfl

/-! ### Matrices -/

/-- What a matrix holds: its own handle and those of its arrows. -/
def held (m : Matrix) : List (Handle × Representation) :=
  (m.handle.toList.map fun h => (h, ⟨m.name, m.visible⟩)) ++ m.basis.flatMap Vector.held

theorem held_of_idle {m : Matrix} (hm : m.handle = none ∧ m.basis = []) : m.held = [] := by
  rw [held, hm.1, hm.2]
  rfl

theorem mem_held {m : Matrix} {h : Handle} (hm : m.handle = some h) :
    (h, ⟨m.name, m.visible⟩) ∈ m.held := by
  rw [held, hm]
  exact List.mem_cons_self

theorem mem_held_of_arrow {m : Matrix} {a : Vector} (ha : a ∈ m.basis) {h : Handle}
    (hh : a.handle = some h) : (h, ⟨a.name, a.visible⟩) ∈ m.held :=
  List.mem_append_right _ (List.mem_flatMap.2 ⟨a, ha, Vector.mem_held hh⟩)

/-- The arrows of a matrix go from its position along its basis vectors. -/
theorem arrows_shape (m : Matrix) :
    m.arrows.map (fun a => (a.name, a.start, a.tip, a.visible)) =
      [(m.name ++ ".x", m.transform.position, m.transform.position + m.transform.left, m.visible),
        (m.name ++ ".y", m.transform.position, m.transform.position + m.transform.up, m.visible),
        (m.name ++ ".z", m.transform.position, m.transform.position + m.transform.forward,
          m.visible)] := by
  simp only [arrows, arrow, Vector.build, List.map_cons, List.map_nil, String.append_assoc]
  rfl

/-- A matrix on the stage has its three arrows there. -/
structure Standing (m : Matrix) : Prop where
  handle : m.handle.isSome
  arrows : m.basis.map Vector.bare = m.arrows
  arrow_handle : ∀ a ∈ m.basis, a.handle.isSome

theorem leave_eq (m : Matrix) (s : Stage) :
    m.leave s = ({ m with handle := none, basis := [] }, match m.handle with
      | some h => (leaveAll m.basis s).leave h
      | none => leaveAll m.basis s) := rfl

theorem accounts_leave (m : Matrix) (hs : s.Accounts earlier removed (m.held ++ others)) :
    (m.leave s).2.Accounts earlier removed others := by
  rw [held, List.append_assoc] at hs
  -- the arrows leave first, while the handle of the matrix is among what others hold
  have harrows := accounts_leaveAll _ (hs.perm (List.perm_append_comm_assoc _ _ _))
  rw [leave_eq]
  cases hm : m.handle with
  | none =>
    rw [hm] at harrows
    exact harrows
  | some h =>
    rw [hm] at harrows
    exact harrows.leave

theorem enter_eq (m : Matrix) (s : Stage) :
    m.enter s =
      let own := (m.leave s).2.enter m.name m.visible
      ({ m with handle := some own.1, basis := (enterAll m.arrows own.2).1 },
        (enterAll m.arrows own.2).2) := rfl

theorem flatMap_held_arrows (m : Matrix) : m.arrows.flatMap Vector.held = [] := rfl

theorem accounts_enter (m : Matrix) (hs : s.Accounts earlier removed (m.held ++ others)) :
    (m.enter s).2.Accounts earlier removed ((m.enter s).1.held ++ others) := by
  -- what the matrix held is given up, then its own handle is new, then those of its arrows
  have hown := (m.accounts_leave hs).enter m.name m.visible
  rw [← List.nil_append (_ :: others), ← m.flatMap_held_arrows] at hown
  have harrows := accounts_enterAll m.arrows hown
  rw [enter_eq]
  exact harrows.perm List.perm_middle

theorem standing_enter (m : Matrix) (s : Stage) : (m.enter s).1.Standing where
  handle := rfl
  arrows := by
    rw [enter_eq]
    exact enterAll_bare _ _
  arrow_handle := by
    rw [enter_eq]
    exact enterAll_handle _ _

theorem accounts_setVisible (m : Matrix) (visible : Bool)
    (hs : s.Accounts earlier removed (m.held ++ others)) :
    (m.setVisible visible s).2.Accounts earlier removed
      ((m.setVisible visible s).1.held ++ others) := by
  rw [held] at hs
  unfold setVisible
  cases hm : m.handle with
  | none =>
    rw [hm] at hs
    exact accounts_showAll visible m.basis hs
  | some h =>
    rw [hm] at hs
    have hown := Stage.Accounts.setVisible hs visible
    have harrows := accounts_showAll visible m.basis (hown.perm List.perm_middle.symm)
    exact harrows.perm List.perm_middle

/-- The arrows of a matrix are shown or hidden with it. -/
theorem arrows_setVisible {m : Matrix} (hm : m.basis.map Vector.bare = m.arrows) (visible : Bool)
    (s : Stage) : (m.setVisible visible s).1.basis.map Vector.bare =
      (m.setVisible visible s).1.arrows := by
  have hshown := congrArg (List.map fun v : Vector => { v with visible }) hm
  rw [List.map_map] at hshown
  simp only [setVisible, showAll_eq, List.map_map]
  exact hshown

theorem standing_setVisible {m : Matrix} (hm : m.Standing) (visible : Bool) (s : Stage) :
    (m.setVisible visible s).1.Standing where
  handle := hm.handle
  arrows := arrows_setVisible hm.arrows visible s
  arrow_handle := by
    simp only [setVisible, showAll_eq, List.forall_mem_map]
    exact hm.arrow_handle

end Matrix

/-! ### Holders -/

/-- Entities whose handles are known. Whatever others hold, a request to the entity changes the
accounts in what the entity holds and nowhere else. -/
class Holder (α : Type) [Entity α] where
  held : α → List (Handle × Representation)
  /-- All that should stand on the stage has a handle. -/
  Standing : α → Prop
  standing_enter (e : α) (s : Stage) : Standing (Entity.enter e s).1
  standing_setVisible {e : α} (he : Standing e) (visible : Bool) (s : Stage) :
    Standing (Entity.setVisible e visible s).1
  accounts_leave {earlier : Moment} {removed : List Handle}
    {others : List (Handle × Representation)} {s : Stage} (e : α) :
    s.Accounts earlier removed (held e ++ others) →
      (Entity.leave e s).2.Accounts earlier removed others
  accounts_enter {earlier : Moment} {removed : List Handle}
    {others : List (Handle × Representation)} {s : Stage} (e : α) :
    s.Accounts earlier removed (held e ++ others) →
      (Entity.enter e s).2.Accounts earlier removed (held (Entity.enter e s).1 ++ others)
  accounts_setVisible {earlier : Moment} {removed : List Handle}
    {others : List (Handle × Representation)} {s : Stage} (e : α) (visible : Bool) :
    s.Accounts earlier removed (held e ++ others) →
      (Entity.setVisible e visible s).2.Accounts earlier removed
        (held (Entity.setVisible e visible s).1 ++ others)

instance : Holder Vector where
  held := Vector.held
  Standing v := v.handle.isSome
  standing_enter v s := by
    show (v.enter s).1.handle.isSome
    rw [Vector.enter_eq]
    rfl
  standing_setVisible hv _ _ := hv
  accounts_leave := Vector.accounts_leave
  accounts_enter := Vector.accounts_enter
  accounts_setVisible := Vector.accounts_setVisible

instance : Holder Matrix where
  held := Matrix.held
  Standing := Matrix.Standing
  standing_enter := Matrix.standing_enter
  standing_setVisible := Matrix.standing_setVisible
  accounts_leave := Matrix.accounts_leave
  accounts_enter := Matrix.accounts_enter
  accounts_setVisible := Matrix.accounts_setVisible

end VectorScene.Scene
