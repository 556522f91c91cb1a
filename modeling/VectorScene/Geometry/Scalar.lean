/-!
# Scalars

The geometry below is written over a type of scalars with the field operations, a square root and a
comparison that answers yes or no. The scene computes with floats; the same formulas can be read
over any other such type.

## Main definitions

* `Scalar`: what the geometry asks of a number
* `lerp`: linear interpolation
* `isNear`: equality within a tolerance
* `toDegrees`, `toRadians`: the two measures of an angle
-/

namespace VectorScene.Geometry

/-- A type of numbers to calculate coordinates with. -/
class Scalar (α : Type) extends Add α, Sub α, Mul α, Div α, Neg α, Zero α, One α,
    OfScientific α where
  /-- The square root. -/
  sqrt : α → α
  /-- Whether the first number is at most the second. -/
  le : α → α → Bool
  /-- The distance from one to the next larger float; a length up to it counts as zero. -/
  epsilon : α

/-- The floats as scalars. A comparison with what is not a number is false. -/
instance : Scalar Float where
  zero := 0.0
  one := 1.0
  sqrt := Float.sqrt
  le a b := a ≤ b
  epsilon := 2.220446049250313e-16

variable {α : Type} [Scalar α]

namespace Scalar

/-- Whether a number is at most and at least zero. -/
def isZero (a : α) : Bool := le a 0 && le 0 a

end Scalar

/-- The point between `a` at `t = 0` and `b` at `t = 1`, and beyond them for other `t`. -/
def lerp (a b t : α) : α := a * (1 - t) + b * t

/-- The distance up to which two numbers count as equal. -/
def tolerance : α := 1e-7

/-- Whether `a` lies within the tolerance of `b`, the two ends included. -/
def isNear (a b : α) : Bool := Scalar.le (b - tolerance) a && Scalar.le a (b + tolerance)

/-- Half the circumference of the unit circle. -/
def pi : Float := 3.141592653589793

/-- An angle in radians as degrees. -/
def toDegrees (radians : Float) : Float := radians * (180.0 / pi)

/-- An angle in degrees as radians. -/
def toRadians (degrees : Float) : Float := degrees * (pi / 180.0)

/-- The nearest number of the range from `low` to `high`; what is not a number stays as it is. -/
def clamp (low high x : Float) : Float :=
  if x < low then low else if high < x then high else x

end VectorScene.Geometry
