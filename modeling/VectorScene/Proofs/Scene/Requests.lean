import VectorScene.Proofs.Scene.Roster
import VectorScene.Proofs.Scene.Shortcuts

/-!
# Runs of requests to a registry

Requests may come in any number and order, with any names and keys. The registry that starts empty
gives the answers that the empty roster gives, and holds the entities of that roster; a request that
fails changes neither the registry nor the stage.

## Main definitions

* `Request`, `Answer`: the requests to a registry, and what comes back
* `Request.All`: what holds of the new entity of a request
* `Registry.answer`, `Roster.answer`: one request
* `Registry.run`, `Roster.run`: requests one after another
* `Registry.Shows`: all that can be read from a registry is read from a roster

## Main results

* `Registry.Lists.answer`: one request keeps a registry and a roster together
* `Registry.run_shows_roster`: so does every run
-/

namespace VectorScene.Scene

/-- The requests to a registry. -/
inductive Request (α : Type) where
  | create (e : α)
  | replace (key : String) (e : α)
  | destroy (key : String)
  | setVisible (key : String) (visible : Bool)
  | clear

/-- What comes back. -/
inductive Answer (α : Type) where
  /-- The entity that now stands under the name of the new one. -/
  | entered (e : Option α)
  | refused (fault : Error)
  /-- The entity that was taken away, if there was one. -/
  | left (e : Option α)
  /-- Whether there was an entity to show or hide. -/
  | shown (found : Bool)
  | cleared

/-- Whether an answer says that nothing was done. -/
def Answer.fails {α : Type} : Answer α → Prop
  | .refused _ | .left none | .shown false => True
  | _ => False

/-- What holds of the new entity of a request, if there is one. -/
def Request.All {α : Type} (P : α → Prop) : Request α → Prop
  | .create e | .replace _ e => P e
  | _ => True

variable {α : Type} [Entity α]

namespace Registry

/-- One request to a registry. -/
def answer (request : Request α) (r : Registry α) (s : Stage) : Answer α × Registry α × Stage :=
  match request with
  | .create e =>
    match r.create e s with
    | .ok (r, s) => (.entered (r.named? (Entity.name e)), r, s)
    | .error fault => (.refused fault, r, s)
  | .replace key e =>
    match r.replace key e s with
    | .ok (r, s) => (.entered (r.named? (Entity.name e)), r, s)
    | .error fault => (.refused fault, r, s)
  | .destroy key =>
    match r.destroy key s with
    | some (e, r, s) => (.left (some e), r, s)
    | none => (.left none, r, s)
  | .setVisible key visible =>
    match r.setVisible key visible s with
    | some (r, s) => (.shown true, r, s)
    | none => (.shown false, r, s)
  | .clear => (.cleared, r.clear s)

/-- Requests to a registry one after another. -/
def run : List (Request α) → Registry α → Stage → List (Answer α) × Registry α × Stage
  | [], r, s => ([], r, s)
  | request :: rest, r, s =>
    let (first, r, s) := answer request r s
    let (others, r, s) := run rest r s
    (first :: others, r, s)

end Registry

namespace Roster

/-- One request to a roster. -/
def answer (request : Request α) (es : List α) (s : Stage) : Answer α × List α × Stage :=
  match request with
  | .create e =>
    match create es e s with
    | .ok (es, s) => (.entered (es.find? (Entity.name · == Entity.name e)), es, s)
    | .error fault => (.refused fault, es, s)
  | .replace key e =>
    match replace es key e s with
    | .ok (es, s) => (.entered (es.find? (Entity.name · == Entity.name e)), es, s)
    | .error fault => (.refused fault, es, s)
  | .destroy key =>
    match destroy es key s with
    | some (e, es, s) => (.left (some e), es, s)
    | none => (.left none, es, s)
  | .setVisible key visible =>
    match setVisible es key visible s with
    | some (es, s) => (.shown true, es, s)
    | none => (.shown false, es, s)
  | .clear => (.cleared, [], clear es s)

/-- Requests to a roster one after another. -/
def run : List (Request α) → List α → Stage → List (Answer α) × List α × Stage
  | [], es, s => ([], es, s)
  | request :: rest, es, s =>
    let (first, es, s) := answer request es s
    let (others, es, s) := run rest es s
    (first :: others, es, s)

end Roster

/-! ### One request -/

namespace Registry.Lists

variable {r : Registry α} {es : List α}

theorem named?_eq_find? (h : r.Lists es) (name : String) :
    r.named? name = es.find? (Entity.name · == name) := by
  cases hf : es.find? (Entity.name · == name) with
  | none =>
    rw [← Option.not_isSome_iff_eq_none, h.named?_isSome_iff]
    simpa [Roster.names] using hf
  | some e =>
    have hname : Entity.name e = name := by simpa using List.find?_some hf
    exact h.named?_eq_some_iff.2 ⟨List.mem_of_find?_eq_some hf, hname⟩

/-- **One request** keeps a registry and a roster together: the answers and the stages are equal. -/
theorem answer (h : r.Lists es) (request : Request α) (s : Stage) :
    (r.answer request s).1 = (Roster.answer request es s).1 ∧
      (r.answer request s).2.1.Lists (Roster.answer request es s).2.1 ∧
      (r.answer request s).2.2 = (Roster.answer request es s).2.2 := by
  cases request with
  | create e =>
    by_cases he : Entity.name e ∈ Roster.names es
    · simpa [Registry.answer, Roster.answer, Roster.create, h.create_taken he, he] using h
    · obtain ⟨r', hr, hl⟩ := h.create_free he s
      simp only [Registry.answer, Roster.answer, Roster.create, hr, if_neg he]
      exact ⟨congrArg _ (hl.named?_eq_find? _), hl, trivial⟩
  | replace key e =>
    cases hk : Roster.locate? es key with
    | none =>
      simpa [Registry.answer, Roster.answer, Roster.replace, hk, h.replace_none hk] using h
    | some p =>
      by_cases he : Entity.name e ∈ Roster.names (es.eraseIdx p.1)
      · simpa [Registry.answer, Roster.answer, Roster.replace, hk, h.replace_taken hk he, he]
          using h
      · obtain ⟨r', hr, hl⟩ := h.replace_free hk he s
        simp only [Registry.answer, Roster.answer, Roster.replace, hk, hr, if_neg he]
        exact ⟨congrArg _ (hl.named?_eq_find? _), hl, trivial⟩
  | destroy key =>
    cases hk : Roster.locate? es key with
    | none =>
      simpa [Registry.answer, Roster.answer, Roster.destroy, hk, h.destroy_none hk] using h
    | some p =>
      obtain ⟨r', hr, hl⟩ := h.destroy_some hk s
      simpa [Registry.answer, Roster.answer, Roster.destroy, hk, hr] using hl
  | setVisible key visible =>
    cases hk : Roster.locate? es key with
    | none =>
      simpa [Registry.answer, Roster.answer, Roster.setVisible, hk, h.setVisible_none hk] using h
    | some p =>
      obtain ⟨r', hr, hl⟩ := h.setVisible_some hk visible s
      simpa [Registry.answer, Roster.answer, Roster.setVisible, hk, hr] using hl
  | clear => simpa [Registry.answer, Roster.answer, h.clear_eq s] using lists_empty

/-- **A run of requests** keeps a registry and a roster together. -/
theorem run (h : r.Lists es) (requests : List (Request α)) (s : Stage) :
    (Registry.run requests r s).1 = (Roster.run requests es s).1 ∧
      (Registry.run requests r s).2.1.Lists (Roster.run requests es s).2.1 ∧
      (Registry.run requests r s).2.2 = (Roster.run requests es s).2.2 := by
  -- the registry and the roster in step are the invariant
  induction requests generalizing r es s with
  | nil => exact ⟨rfl, h, rfl⟩
  | cons request rest ih =>
    obtain ⟨hanswer, hlists, hstage⟩ := h.answer request s
    obtain ⟨hrest, hlists, hend⟩ := ih hlists (r.answer request s).2.2
    simp only [Registry.run, Roster.run]
    rw [hanswer, hrest, hend, ← hstage]
    exact ⟨rfl, hstage ▸ hlists, rfl⟩

end Registry.Lists

/-- A request that fails changes neither the registry nor the stage. -/
theorem Registry.answer_of_fails (request : Request α) (r : Registry α) (s : Stage)
    (h : (r.answer request s).1.fails) : (r.answer request s).2 = (r, s) := by
  cases request with
  | create e =>
    simp only [Registry.answer] at h ⊢
    cases hc : r.create e s with
    | ok p => simp [hc, Answer.fails] at h
    | error fault => rfl
  | replace key e =>
    simp only [Registry.answer] at h ⊢
    cases hc : r.replace key e s with
    | ok p => simp [hc, Answer.fails] at h
    | error fault => rfl
  | destroy key =>
    simp only [Registry.answer] at h ⊢
    cases hc : r.destroy key s with
    | some p => simp [hc, Answer.fails] at h
    | none => rfl
  | setVisible key visible =>
    simp only [Registry.answer] at h ⊢
    cases hc : r.setVisible key visible s with
    | some p => simp [hc, Answer.fails] at h
    | none => rfl
  | clear => simp [Registry.answer, Answer.fails] at h

/-! ### What a registry shows -/

namespace Registry

/-- All that can be read from a registry is read from a roster, and what is stored is in step with
the names. -/
structure Shows (r : Registry α) (es : List α) : Prop where
  entities : r.entities = es
  names : r.names = Roster.names es
  size : r.size = es.length
  nodup : r.names.Nodup
  keys : (r.stored.map (·.1)).Perm r.names
  stored_name : ∀ p ∈ r.stored, Entity.name p.2 = p.1
  named? : ∀ name, r.named? name = es.find? (Entity.name · == name)
  get? : ∀ key, r.get? key = (Roster.locate? es key).map (·.2)
  resolve : ∀ key, r.resolve key = (Roster.locate? es key).map (Entity.name ·.2)
  /-- `$` is the last name. -/
  resolve_last : r.resolve "$" = r.names.reverse[0]?
  /-- `$-N` is the name `N` before the last. -/
  resolve_shortcut : ∀ n : Nat, r.resolve ("$-" ++ toString n) = r.names.reverse[n]?
  /-- Any other text is the equal name. -/
  resolve_literal : ∀ key : String, (∀ rest, key.toList ≠ '$' :: rest) →
    r.resolve key = if key ∈ r.names then some key else none

theorem Lists.shows {r : Registry α} {es : List α} (h : r.Lists es) : r.Shows es where
  entities := h.entities_eq
  names := h.order
  size := h.size_eq
  nodup := by
    rw [names, h.order]
    exact h.nodup
  keys := by
    rw [names, h.order, ← Roster.map_entry_fst]
    exact h.stored.map _
  stored_name p hp := (Roster.mem_entry_iff.1 (h.stored.mem_iff.1 hp)).2
  named? := h.named?_eq_find?
  get? := h.get?_eq
  resolve := h.resolve_eq
  resolve_last := rfl
  resolve_shortcut n := by
    have hkey : ("$-" ++ toString n).toList = '$' :: '-' :: Nat.toDigits 10 n := by
      simp
    rw [Registry.resolve]
    simp only [hkey, Shortcut.offset?_eq_some_iff.2 (Shortcut.countsBack_toDigits n), names]
    rfl
  resolve_literal key hkey := by
    have hnames : key ∈ r.names ↔ (r.named? key).isSome := by
      rw [h.named?_isSome_iff, names, h.order]
    unfold Registry.resolve
    split
    · exact absurd ‹_› (hkey _)
    · simp only [hnames]

end Registry

/-- **A registry is a list of entities with different names.** Whatever requests are made of the
empty registry, it gives the answers of the empty roster, leaves the same stage, and shows the
entities of that roster; and a request that fails then changes nothing. -/
theorem Registry.run_shows_roster (requests : List (Request α)) (s : Stage) :
    (run requests (.empty : Registry α) s).1 = (Roster.run requests [] s).1 ∧
      (run requests (.empty : Registry α) s).2.1.Shows (Roster.run requests [] s).2.1 ∧
      (run requests (.empty : Registry α) s).2.2 = (Roster.run requests [] s).2.2 ∧
      ∀ request, (answer request (run requests (.empty : Registry α) s).2.1
          (run requests (.empty : Registry α) s).2.2).1.fails →
        (answer request (run requests (.empty : Registry α) s).2.1
          (run requests (.empty : Registry α) s).2.2).2 = (run requests .empty s).2 := by
  obtain ⟨hanswers, hlists, hstage⟩ := lists_empty.run requests s
  exact ⟨hanswers, hlists.shows, hstage, fun request h => answer_of_fails request _ _ h⟩

end VectorScene.Scene
