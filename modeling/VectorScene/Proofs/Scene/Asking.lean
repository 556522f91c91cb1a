import VectorScene.Proofs.Scene.Requests
import VectorScene.Scene.State

/-!
# Requests to a scene

A scene passes a request on to one of its registries, with the stage that the registries share. What
comes back is read off the registry's answer.

## Main definitions

* `State.askVectors`, `State.askMatrices`: the scene after a request to one of its registries
* `Answer.fault?`, `Answer.gone?`, `Answer.found`: what a scene reads off an answer

## Main results

* `State.createVector_eq`, `State.replaceVector_eq`, `State.destroyVector_eq`, `State.showVector_eq`
  and the same for matrices: the changes of a scene are requests
-/

namespace VectorScene.Scene

namespace Answer

variable {α : Type}

/-- Why a request was refused, if it was. -/
def fault? : Answer α → Option Error
  | refused fault => some fault
  | _ => none

/-- The entity that was taken away, if one was. -/
def gone? : Answer α → Option α
  | left e => e
  | _ => none

/-- Whether there was an entity to show or hide. -/
def found : Answer α → Bool
  | shown found => found
  | _ => false

end Answer

/-- A request is refused because a name is taken or not found. -/
theorem Registry.isLookup_of_fault {α : Type} [Entity α] {r : Registry α} {request : Request α}
    {s : Stage} {fault : Error} (h : (r.answer request s).1.fault? = some fault) :
    fault.isLookup := by
  cases request with
  | create e =>
    by_cases hname : (r.named? (Entity.name e)).isSome
    · simp only [answer, create, hname, if_true, Answer.fault?, Option.some.injEq] at h
      exact h ▸ rfl
    · simp [answer, create, hname, Answer.fault?] at h
  | replace key e =>
    simp only [answer, replace] at h
    cases hold : r.resolve key with
    | none =>
      simp only [hold, Answer.fault?, Option.some.injEq] at h
      exact h ▸ rfl
    | some old =>
      by_cases hname : Entity.name e ≠ old ∧ (r.named? (Entity.name e)).isSome
      · simp only [hold, if_pos hname, Answer.fault?, Option.some.injEq] at h
        exact h ▸ rfl
      · simp [hold, if_neg hname, Answer.fault?] at h
  | destroy key => cases hd : r.destroy key s <;> simp [answer, hd, Answer.fault?] at h
  | setVisible key visible =>
    cases hd : r.setVisible key visible s <;> simp [answer, hd, Answer.fault?] at h
  | clear => simp [answer, Answer.fault?] at h

namespace State

/-- The scene after a request to its vectors. -/
def askVectors (s : State) (request : Request Vector) : State :=
  { s with
    vectors := (s.vectors.answer request s.stage).2.1
    stage := (s.vectors.answer request s.stage).2.2 }

/-- The scene after a request to its matrices. -/
def askMatrices (s : State) (request : Request Matrix) : State :=
  { s with
    matrices := (s.matrices.answer request s.stage).2.1
    stage := (s.matrices.answer request s.stage).2.2 }

variable (s : State)

/-! ### Vectors -/

theorem createVector_eq (v : Vector) :
    s.createVector v = match (s.vectors.answer (.create v) s.stage).1.fault? with
      | some fault => .error fault
      | none => .ok (s.askVectors (.create v)) := by
  simp only [createVector, askVectors, Registry.answer]
  cases s.vectors.create v s.stage <;> rfl

theorem replaceVector_eq (key : String) (v : Vector) :
    s.replaceVector key v = match (s.vectors.answer (.replace key v) s.stage).1.fault? with
      | some fault => .error fault
      | none => .ok (s.askVectors (.replace key v)) := by
  simp only [replaceVector, askVectors, Registry.answer]
  cases s.vectors.replace key v s.stage <;> rfl

theorem destroyVector_eq (key : String) :
    s.destroyVector key = (s.vectors.answer (.destroy key) s.stage).1.gone?.map
      fun v => (v, s.askVectors (.destroy key)) := by
  simp only [destroyVector, askVectors, Registry.answer]
  cases s.vectors.destroy key s.stage <;> rfl

theorem showVector_eq (key : String) (visible : Bool) :
    s.showVector key visible =
      match (s.vectors.answer (.setVisible key visible) s.stage).1.found with
      | true => some (s.askVectors (.setVisible key visible))
      | false => none := by
  simp only [showVector, askVectors, Registry.answer]
  cases s.vectors.setVisible key visible s.stage <;> rfl

/-! ### Matrices -/

theorem createMatrix_eq (m : Matrix) :
    s.createMatrix m = match (s.matrices.answer (.create m) s.stage).1.fault? with
      | some fault => .error fault
      | none => .ok (s.askMatrices (.create m)) := by
  simp only [createMatrix, askMatrices, Registry.answer]
  cases s.matrices.create m s.stage <;> rfl

theorem replaceMatrix_eq (key : String) (m : Matrix) :
    s.replaceMatrix key m = match (s.matrices.answer (.replace key m) s.stage).1.fault? with
      | some fault => .error fault
      | none => .ok (s.askMatrices (.replace key m)) := by
  simp only [replaceMatrix, askMatrices, Registry.answer]
  cases s.matrices.replace key m s.stage <;> rfl

theorem destroyMatrix_eq (key : String) :
    s.destroyMatrix key = (s.matrices.answer (.destroy key) s.stage).1.gone?.map
      fun m => (m, s.askMatrices (.destroy key)) := by
  simp only [destroyMatrix, askMatrices, Registry.answer]
  cases s.matrices.destroy key s.stage <;> rfl

theorem showMatrix_eq (key : String) (visible : Bool) :
    s.showMatrix key visible =
      match (s.matrices.answer (.setVisible key visible) s.stage).1.found with
      | true => some (s.askMatrices (.setVisible key visible))
      | false => none := by
  simp only [showMatrix, askMatrices, Registry.answer]
  cases s.matrices.setVisible key visible s.stage <;> rfl

/-! ### Refusals -/

variable {s} {fault : Error}

theorem createVector_error {v : Vector} (h : s.createVector v = .error fault) :
    fault.isLookup := by
  rw [createVector_eq] at h
  split at h
  · rename_i hfault
    cases h
    exact Registry.isLookup_of_fault hfault
  · cases h

theorem replaceVector_error {key : String} {v : Vector}
    (h : s.replaceVector key v = .error fault) : fault.isLookup := by
  rw [replaceVector_eq] at h
  split at h
  · rename_i hfault
    cases h
    exact Registry.isLookup_of_fault hfault
  · cases h

theorem createMatrix_error {m : Matrix} (h : s.createMatrix m = .error fault) :
    fault.isLookup := by
  rw [createMatrix_eq] at h
  split at h
  · rename_i hfault
    cases h
    exact Registry.isLookup_of_fault hfault
  · cases h

theorem replaceMatrix_error {key : String} {m : Matrix}
    (h : s.replaceMatrix key m = .error fault) : fault.isLookup := by
  rw [replaceMatrix_eq] at h
  split at h
  · rename_i hfault
    cases h
    exact Registry.isLookup_of_fault hfault
  · cases h

/-! ### Requests that are granted -/

variable {t : State}

theorem replaceVector_ok {key : String} {v : Vector} (h : s.replaceVector key v = .ok t) :
    (s.vectors.answer (.replace key v) s.stage).1.fault? = none ∧
      s.askVectors (.replace key v) = t := by
  rw [replaceVector_eq] at h
  split at h
  · cases h
  · exact ⟨‹_›, Except.ok.inj h⟩

theorem replaceMatrix_ok {key : String} {m : Matrix} (h : s.replaceMatrix key m = .ok t) :
    (s.matrices.answer (.replace key m) s.stage).1.fault? = none ∧
      s.askMatrices (.replace key m) = t := by
  rw [replaceMatrix_eq] at h
  split at h
  · cases h
  · exact ⟨‹_›, Except.ok.inj h⟩

/-! ### Both -/

theorem clear_eq (s : State) :
    s.clear = { (s.askVectors .clear).askMatrices .clear with
      resultCount := 0, randomCount := 0, menuStale := true } := rfl

end State

end VectorScene.Scene
