/-!
# Render modes

How a vector is drawn: as an arrow or a line from start to tip, as a model at the start, or as the
arc of an angle.

## Main definitions

* `RenderMode`: the modes
* `RenderMode.all`: the modes in the order of menus
* `RenderMode.name`, `RenderMode.ofName?`: the names used in commands
* `RenderMode.isModel`: whether a mode stands at the start point
-/

namespace VectorScene.Scene

/-- How a vector is drawn. -/
inductive RenderMode where
  | vector
  | waypoint
  | line
  | dashedLine
  | man
  | dog
  | spaceship
  | triangle
  | box
  | torus
  | plane
  | angle
deriving DecidableEq, Repr, Inhabited

namespace RenderMode

/-- All modes in the order of menus. -/
def all : List RenderMode :=
  [vector, waypoint, line, dashedLine, man, dog, spaceship, triangle, box, torus, plane, angle]

/-- The name used in commands and scripts. -/
def name : RenderMode → String
  | vector => "vector"
  | waypoint => "waypoint"
  | line => "line"
  | dashedLine => "dashedLine"
  | man => "man"
  | dog => "dog"
  | spaceship => "spaceship"
  | triangle => "triangle"
  | box => "box"
  | torus => "torus"
  | plane => "plane"
  | angle => "angle"

/-- The mode of a name. -/
def ofName? (name : String) : Option RenderMode := all.find? (·.name == name)

@[simp] theorem mem_all (mode : RenderMode) : mode ∈ all := by cases mode <;> decide

@[simp] theorem ofName?_name (mode : RenderMode) : ofName? mode.name = some mode := by
  cases mode <;> decide

/-- Whether a mode places a model at the start point. -/
def isModel : RenderMode → Bool
  | waypoint | man | dog | spaceship | triangle | box | torus | plane => true
  | vector | line | dashedLine | angle => false

end RenderMode

end VectorScene.Scene
