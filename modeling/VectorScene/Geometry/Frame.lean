import VectorScene.Geometry.Mat4

/-!
# Frames and angles from directions

A direction alone fixes the third axis of a frame. The other two are taken level and upright: the
left axis is orthogonal to the direction and to its flattened opposite, and the up axis to both.

## Main definitions

* `angleBetween?`: the angle of two directions
* `Frame.helper`: a vector that is not parallel to the direction
* `Frame.ofForward?`: the frame with a given third axis
-/

namespace VectorScene.Geometry

/-- The angle in radians between two directions, if both are long enough to have one. -/
def angleBetween? (a b : Point) : Option Float := do
  let a ← a.direction?
  let b ← b.direction?
  return (clamp (-1.0) 1.0 (a.dot b)).acos

namespace Frame

variable {α : Type} [Scalar α]

/-- How far a helper vector is moved off a world axis. -/
def nudge : α := -1e-6

/-- How far a helper vector is tilted when it is opposite to the direction. -/
def tilt : α := -0.01

/-- Whether a unit vector lies along an axis, in either sense. -/
def isAlong (forward axis : Vec3 α) : Bool := forward.isNear axis || forward.isNear (-axis)

/-- The opposite direction, flattened onto the plane of the first and third axis, or moved a little
off a world axis, before its length is made one. -/
def flattened (forward : Vec3 α) : Vec3 α :=
  if isAlong forward .axisY then { -forward with z := nudge }
  else if isAlong forward .axisZ || isAlong forward .axisX then
    { -forward with z := 0, y := nudge }
  else { -forward with y := 0 }

/-- A vector that is not parallel to `forward`. -/
def helper (forward : Vec3 α) : Vec3 α :=
  let level := (flattened forward).normalize
  if isNear (forward.dot level) (-1) then { level with y := tilt } else level

/-- The left axis of the frame with the unit vector `forward`. -/
def left (forward : Vec3 α) : Vec3 α :=
  let side :=
    if Scalar.le (forward.dot .axisY) 0 then forward.cross (helper forward)
    else (helper forward).cross forward
  side.normalize

/-- The up axis of the frame with the unit vector `forward`. -/
def up (forward : Vec3 α) : Vec3 α := (forward.cross (left forward)).normalize

/-- The frame whose third axis is the unit vector of `direction`, unless that is too short. -/
def ofForward? (direction : Vec3 α) (position : Option (Vec3 α)) : Option (Mat4 α) := do
  let forward ← direction.direction?
  return .ofBasis (left forward) (up forward) forward (position.getD .zero)

end Frame

end VectorScene.Geometry
