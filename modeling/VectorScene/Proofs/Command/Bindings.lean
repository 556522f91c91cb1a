import VectorScene.Session

/-!
# Bindings of commands

Every command of a session is bound to its name, so scripts find it, and has a definition that is
not at fault. Registering keeps this, and scripts bind nothing.

## Main definitions

* `Session.Reachable`: the sessions that come from starting and registering
* `Session.Sound`: every command is bound, and no definition is at fault

## Main results

* `Bridge.symbols_evaluate`: a script binds nothing
* `Session.Reachable.sound`: registered commands are bound
-/

namespace VectorScene

open Command

/-! ### Symbols -/

namespace Command.Bridge

variable {b : Bridge} {symbol : String}

theorem isBound_iff : b.isBound symbol = true ↔ symbol ∈ b.symbols := by
  simp [isBound]

theorem mem_bind {other : String} :
    other ∈ (b.bind symbol).symbols ↔ other ∈ b.symbols ∨ other = symbol := by
  unfold bind
  split
  · rename_i hbound
    have hmem : symbol ∈ b.symbols := isBound_iff.1 hbound
    constructor
    · exact .inl
    · rintro (h | rfl)
      · exact h
      · exact hmem
  · simp

theorem mem_foldl_bind {names : List String} :
    symbol ∈ (names.foldl bind b).symbols ↔ symbol ∈ b.symbols ∨ symbol ∈ names := by
  induction names generalizing b with
  | nil => simp
  | cons name rest ih => rw [List.foldl_cons, ih, mem_bind, List.mem_cons, or_assoc]

/-- **A script** binds nothing. -/
theorem symbols_evaluate {σ : Type} (b : Bridge) (functions : Functions σ) (text : String) (s : σ) :
    (b.evaluate functions text s).2.1.symbols = b.symbols := by
  unfold evaluate
  split <;> rfl

end Command.Bridge

/-! ### Commands -/

/-- A command that is added is found. -/
theorem Command.Table.get?_added (t : Table) (c : Command) :
    Table.get? ⟨(t.erase c.name).commands ++ [c]⟩ c.name = some c := by
  have herased : (t.erase c.name).commands.find? (·.name == c.name) = none := by
    refine List.find?_eq_none.2 fun d hd => ?_
    have := (List.mem_filter.1 hd).2
    simpa using this
  rw [Table.get?, List.find?_append, herased]
  simp

theorem Command.Table.builtin_sound :
    ∀ c ∈ Table.builtin.commands, c.definition.fault? = none := by
  decide +kernel

namespace Session

/-- The sessions that come from registering commands, from scripts, and from whatever changes only
the engine, such as calls, command lists and log files. -/
inductive Reachable : Session → Prop where
  | start (scene : Scene.State) (draws : Draws) (files : Files) :
    Reachable (start scene draws files)
  | register {s s' : Session} (c : Command) : Reachable s → s.register c = .ok s' → Reachable s'
  | engine {s : Session} (engine : Engine) : Reachable s → Reachable { s with engine }
  | evaluate {s : Session} (text : String) : Reachable s → Reachable (s.evaluate text).2
  | forget {s : Session} : Reachable s → Reachable { s with bridge := s.bridge.forget }

/-- Every command is bound to its name, and no definition is at fault. -/
def Sound (s : Session) : Prop :=
  ∀ c ∈ s.table.commands, s.bridge.isBound c.name = true ∧ c.definition.fault? = none

theorem sound_start (scene : Scene.State) (draws : Draws) (files : Files) :
    (start scene draws files).Sound := by
  intro c hc
  refine ⟨Bridge.isBound_iff.2 (Bridge.mem_foldl_bind.2 (.inr ?_)), Table.builtin_sound c hc⟩
  -- sorting the names loses none of them
  simp only [Table.names, Table.definitions, List.mem_map, List.mem_mergeSort]
  exact ⟨_, ⟨c, hc, rfl⟩, rfl⟩

theorem Sound.register {s s' : Session} (hs : s.Sound) {c : Command} (h : s.register c = .ok s') :
    s'.Sound := by
  unfold Session.register Table.register at h
  cases hfault : c.definition.fault? with
  | some fault => simp [hfault] at h
  | none =>
    simp only [hfault, Except.ok.injEq] at h
    subst h
    intro c' hc'
    rcases List.mem_append.1 hc' with hc' | hc'
    · -- a command that stays is still bound
      obtain ⟨hbound, hsound⟩ := hs c' (List.mem_filter.1 hc').1
      exact ⟨Bridge.isBound_iff.2 (Bridge.mem_bind.2 (.inl (Bridge.isBound_iff.1 hbound))), hsound⟩
    · rw [List.mem_singleton.1 hc']
      exact ⟨Bridge.isBound_iff.2 (Bridge.mem_bind.2 (.inr rfl)), hfault⟩

/-- A script of a session is one on the bridge. -/
theorem evaluate_eq {s : Session} {text : String} {result : Except Error Value} {bridge : Bridge}
    {engine : Engine}
    (h : s.bridge.evaluate (functions s.table) text s.engine = (result, bridge, engine)) :
    s.evaluate text = (result, { s with bridge, engine }) := by
  unfold Session.evaluate
  rw [h]

theorem Sound.evaluate {s : Session} (hs : s.Sound) (text : String) :
    (s.evaluate text).2.Sound := by
  have hsymbols := s.bridge.symbols_evaluate (functions s.table) text s.engine
  rcases h : s.bridge.evaluate (functions s.table) text s.engine with ⟨result, bridge, engine⟩
  rw [h] at hsymbols
  rw [evaluate_eq h]
  intro c hc
  obtain ⟨hbound, hsound⟩ := hs c hc
  exact ⟨Bridge.isBound_iff.2 (hsymbols ▸ Bridge.isBound_iff.1 hbound), hsound⟩

/-- **Registered commands** are bound, and their definitions are sound. -/
theorem Reachable.sound {s : Session} (hs : s.Reachable) : s.Sound := by
  induction hs with
  | start scene draws files => exact sound_start scene draws files
  | register c _ h ih => exact ih.register h
  | engine _ _ ih => exact ih
  | evaluate text _ ih => exact ih.evaluate text
  | forget _ ih => exact ih

end Session

end VectorScene
