import VectorScene.Geometry.Frame
import VectorScene.Scene.Draws
import VectorScene.Scene.Entity
import VectorScene.Scene.RenderMode

/-!
# Vectors of the scene

A vector is a named segment from its start to its tip, with a color, a render mode and a label. It
is built from options; what they leave open has a default, which for the color is random.

## Main definitions

* `Color`: colors as numbers `0xRRGGBB`
* `Vector.Options`: what may be chosen for a new vector
* `Vector`: vectors of the scene
* `Vector.build`: a vector whose color is known
* `Vector.draw`: a vector whose color is drawn if the options leave it open
* `Vector.options`, `Vector.derivedOptions`: options read off a vector
-/

namespace VectorScene.Scene

open VectorScene.Geometry

/-- A color `0xRRGGBB`. -/
abbrev Color := UInt32

/-- The largest color of 24 bits. -/
def Color.limit : Color := 0xffffff

/-- The color of a number from zero to one. -/
def Color.ofUnit (u : Float) : Color := (lerp 0.0 16777215.0 u).toUInt32

namespace Vector

/-- What may be chosen for a new vector. -/
structure Options where
  color : Option Color := none
  mode : Option RenderMode := none
  labelled : Option Bool := none
  label : Option String := none
  visible : Option Bool := none
  scale : Option Point := none
  basisA : Option String := none
  basisB : Option String := none

end Vector

/-- A named segment from `start` to `tip`. -/
structure Vector where
  name : String
  start : Point
  tip : Point
  color : Color
  mode : RenderMode
  visible : Bool
  /-- Whether the label is shown. -/
  labelled : Bool
  label : String
  scale : Point
  /-- The vectors that the arc of an angle joins. -/
  basisA : Option String
  basisB : Option String
  handle : Option Handle

namespace Vector

/-- The label of a name: the chosen one, or the name itself if that is empty or none. -/
def labelOr (chosen : Option String) (name : String) : String :=
  match chosen with
  | some label => if label.isEmpty then name else label
  | none => name

/-- A vector with the given color that is not on the stage. -/
def build (name : String) (start tip : Point) (color : Color) (o : Options) : Vector where
  name := name
  start := start
  tip := tip
  color := color
  mode := o.mode.getD .vector
  visible := o.visible.getD true
  labelled := o.labelled.getD false
  label := labelOr o.label name
  scale := o.scale.getD (.splat 1)
  basisA := o.basisA
  basisB := o.basisB
  handle := none

/-- The chosen color, or else a drawn one. -/
def Options.colorFrom (o : Options) (draws : Draws) : Color × Draws :=
  match o.color with
  | some color => (color, draws)
  | none =>
    let (u, draws) := draws.next
    (.ofUnit u, draws)

/-- A vector with the given options that is not on the stage. -/
def draw (name : String) (start tip : Point) (o : Options) (draws : Draws) : Vector × Draws :=
  let (color, draws) := o.colorFrom draws
  (build name start tip color o, draws)

/-- The tip of the vector from the origin along a direction; the origin if there is none. -/
def tipAlong (direction : Point) (magnitude : Float) : Point :=
  match direction.direction? with
  | some unit => unit.scale magnitude
  | none => .zero

/-- The options that give the vector's appearance. -/
def options (v : Vector) : Options where
  color := some v.color
  mode := some v.mode
  labelled := some v.labelled
  label := some v.label
  visible := some v.visible
  scale := some v.scale
  basisA := v.basisA
  basisB := v.basisB

/-- The options that vectors made from this one take over: the mode and the scale. -/
def derivedOptions (v : Vector) : Options where
  mode := some v.mode
  scale := some v.scale

/-- The way from start to tip. -/
def displacement (v : Vector) : Point := v.tip - v.start

/-- The length. -/
def magnitude (v : Vector) : Float := v.displacement.norm

/-- The unit direction; zero if the vector is too short to have one. -/
def normal (v : Vector) : Point := v.displacement.direction?.getD .zero

/-- Where the vector is, for measurements: a model stands at the start, an arrow points at its
tip. -/
def anchor (v : Vector) : Point := if v.mode.isModel then v.start else v.tip

/-- The vector off the stage. -/
def leave (v : Vector) (s : Stage) : Vector × Stage :=
  match v.handle with
  | some h => ({ v with handle := none }, s.leave h)
  | none => (v, s)

/-- The vector on the stage under a new handle. -/
def enter (v : Vector) (s : Stage) : Vector × Stage :=
  let (v, s) := v.leave s
  let (h, s) := s.enter v.name v.visible
  ({ v with handle := some h }, s)

/-- The vector shown or hidden. -/
def setVisible (v : Vector) (visible : Bool) (s : Stage) : Vector × Stage :=
  ({ v with visible }, match v.handle with
    | some h => s.setVisible h visible
    | none => s)

instance : Entity Vector where
  kind := .vector
  name := Vector.name
  enter := enter
  leave := leave
  setVisible := Vector.setVisible
  name_enter v s := by
    unfold enter leave
    cases v.handle <;> rfl
  name_setVisible _ _ _ := rfl

end Vector

end VectorScene.Scene
