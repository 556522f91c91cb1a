import VectorScene.Geometry.Scalar

/-!
# Vectors of three coordinates

## Main definitions

* `Vec3`: points and directions of space
* `Vec3.dot`, `Vec3.cross`, `Vec3.norm`: the products and the length
* `Vec3.normalize?`: the unit vector of a direction that is long enough
* `Point`: vectors of floats
-/

namespace VectorScene.Geometry

/-- A point or a direction. -/
structure Vec3 (α : Type) where
  x : α
  y : α
  z : α
deriving Repr

namespace Vec3

variable {α : Type} [Scalar α]

/-- The vector whose coordinates are all `a`. -/
def splat (a : α) : Vec3 α := ⟨a, a, a⟩

/-- The origin. -/
def zero : Vec3 α := splat 0

/-- The first axis, which points left. -/
def axisX : Vec3 α := ⟨1, 0, 0⟩

/-- The second axis, which points up. -/
def axisY : Vec3 α := ⟨0, 1, 0⟩

/-- The third axis, which points forward. -/
def axisZ : Vec3 α := ⟨0, 0, 1⟩

instance : Add (Vec3 α) := ⟨fun a b => ⟨a.x + b.x, a.y + b.y, a.z + b.z⟩⟩

instance : Sub (Vec3 α) := ⟨fun a b => ⟨a.x - b.x, a.y - b.y, a.z - b.z⟩⟩

instance : Neg (Vec3 α) := ⟨fun a => ⟨-a.x, -a.y, -a.z⟩⟩

/-- Every coordinate times `k`. -/
def scale (a : Vec3 α) (k : α) : Vec3 α := ⟨a.x * k, a.y * k, a.z * k⟩

/-- Every coordinate divided by `k`. -/
def shrink (a : Vec3 α) (k : α) : Vec3 α := ⟨a.x / k, a.y / k, a.z / k⟩

/-- The scalar product. -/
def dot (a b : Vec3 α) : α := a.x * b.x + a.y * b.y + a.z * b.z

/-- The vector product. -/
def cross (a b : Vec3 α) : Vec3 α :=
  ⟨a.y * b.z - a.z * b.y, a.z * b.x - a.x * b.z, a.x * b.y - a.y * b.x⟩

/-- The length. -/
def norm (a : Vec3 α) : α := Scalar.sqrt (a.dot a)

/-- The vector divided by its length. -/
def normalize (a : Vec3 α) : Vec3 α := a.shrink a.norm

/-- The vector divided by its length, unless that is at most `least`. -/
def normalize? (a : Vec3 α) (least : α) : Option (Vec3 α) :=
  if Scalar.le a.norm least then none else some a.normalize

/-- The unit vector of a direction. A length up to the scalars' epsilon has no direction. -/
def direction? (a : Vec3 α) : Option (Vec3 α) := a.normalize? Scalar.epsilon

/-- Interpolation in every coordinate. -/
def lerp (a b : Vec3 α) (t : α) : Vec3 α :=
  ⟨Geometry.lerp a.x b.x t, Geometry.lerp a.y b.y t, Geometry.lerp a.z b.z t⟩

/-- Whether every coordinate is within the tolerance. -/
def isNear (a b : Vec3 α) : Bool :=
  Geometry.isNear a.x b.x && Geometry.isNear a.y b.y && Geometry.isNear a.z b.z

/-- The coordinates in order. -/
def toList (a : Vec3 α) : List α := [a.x, a.y, a.z]

end Vec3

/-- A point of the scene. -/
abbrev Point := Vec3 Float

end VectorScene.Geometry
