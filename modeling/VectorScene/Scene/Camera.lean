import VectorScene.Geometry.Vec3

/-!
# The camera

## Main definitions

* `Camera`: what commands can change of the view
-/

namespace VectorScene.Scene

open VectorScene.Geometry

/-- What commands can change of the view. -/
structure Camera where
  /-- The vertical field of view in degrees. -/
  fieldOfView : Float := 90.0
  /-- The point that the camera turns about. -/
  target : Point := ⟨0.0, 0.0, 0.0⟩
  autoRotate : Bool := false
  autoRotateSpeed : Float := 0.0

namespace Camera

/-- The speed of turning once it has been switched. -/
def turningSpeed : Float := -2.0

/-- The camera with turning switched on or off; either way the speed is set. -/
def turning (c : Camera) (on : Bool) : Camera :=
  { c with autoRotate := on, autoRotateSpeed := turningSpeed }

end Camera

end VectorScene.Scene
