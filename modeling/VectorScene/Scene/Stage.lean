/-!
# The stage

What the scene shows stands on a stage. Whatever enters it gets a handle; handles are numbered in
the order of entering and are never given twice. The stage keeps the label and the visibility of
what stands on it, and counts what entered and left.

## Main definitions

* `Handle`: the number of a representation
* `Stage`: what stands on the stage, and the counts
* `Stage.enter`, `Stage.leave`, `Stage.setVisible`: the requests to the stage
* `Stage.get?`: what stands on the stage under a handle
-/

namespace VectorScene.Scene

/-- The number of a representation on the stage. -/
abbrev Handle := Nat

/-- Something that stands on the stage. -/
structure Representation where
  label : String
  visible : Bool
deriving DecidableEq, Repr

/-- What stands on the stage in the order of entering, how much entered and left so far, and the
handles that something was asked to leave under when nothing stood there. -/
structure Stage where
  live : List (Handle × Representation)
  entered : Nat
  left : Nat
  unknown : List Handle
deriving Repr

namespace Stage

/-- The stage before anything entered. -/
def empty : Stage := ⟨[], 0, 0, []⟩

/-- Lets something enter, and gives its handle. -/
def enter (s : Stage) (label : String) (visible : Bool) : Handle × Stage :=
  (s.entered,
    { s with live := s.live ++ [(s.entered, ⟨label, visible⟩)], entered := s.entered + 1 })

/-- What stands under a handle. -/
def get? (s : Stage) (h : Handle) : Option Representation := s.live.lookup h

/-- Lets what stands under a handle leave. -/
def leave (s : Stage) (h : Handle) : Stage :=
  if (s.get? h).isSome then
    { s with live := s.live.filter (·.1 != h), left := s.left + 1 }
  else { s with unknown := s.unknown ++ [h] }

/-- Shows or hides what stands under a handle, if anything does. -/
def setVisible (s : Stage) (h : Handle) (visible : Bool) : Stage :=
  { s with live := s.live.map fun e => if e.1 = h then (e.1, { e.2 with visible }) else e }

/-- The labels of what stands on the stage, sorted. -/
def labels (s : Stage) : List String := (s.live.map (·.2.label)).mergeSort (· ≤ ·)

/-- The warning about a handle under which nothing stands. -/
def unknownWarning (h : Handle) : String :=
  s!"dematerialize called with unknown handle RenderHandle({h})"

end Stage

end VectorScene.Scene
