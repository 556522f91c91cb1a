import VectorScene.Geometry.Vec3

/-!
# Homogeneous transforms

A transform is a matrix of four rows. Its first three columns are the basis vectors left, up and
forward, its fourth column holds the position.

## Main definitions

* `Vec4`, `Mat4`: rows and matrices
* `Mat4.mul`: the product, whose entries are products of a row and a column
* `Mat4.rotationX`, `Mat4.rotationY`, `Mat4.rotationZ`, `Mat4.translation`, `Mat4.scaling`
* `Mat4.inverse?`: the inverse by cofactors
* `Mat4.transformPoint`: the image of a point
-/

namespace VectorScene.Geometry

/-- A row or a column of a matrix. -/
structure Vec4 (α : Type) where
  x : α
  y : α
  z : α
  w : α
deriving Repr

namespace Vec4

variable {α : Type} [Scalar α]

/-- The scalar product. -/
def dot (a b : Vec4 α) : α := a.x * b.x + a.y * b.y + a.z * b.z + a.w * b.w

/-- The first three coordinates. -/
def xyz (a : Vec4 α) : Vec3 α := ⟨a.x, a.y, a.z⟩

/-- The homogeneous coordinates of a point. -/
def ofPoint (p : Vec3 α) : Vec4 α := ⟨p.x, p.y, p.z, 1⟩

/-- Every coordinate times `k`. -/
def scale (a : Vec4 α) (k : α) : Vec4 α := ⟨a.x * k, a.y * k, a.z * k, a.w * k⟩

/-- The coordinates in order. -/
def toList (a : Vec4 α) : List α := [a.x, a.y, a.z, a.w]

end Vec4

/-- A matrix as its four rows. -/
structure Mat4 (α : Type) where
  row0 : Vec4 α
  row1 : Vec4 α
  row2 : Vec4 α
  row3 : Vec4 α
deriving Repr

namespace Mat4

variable {α : Type} [Scalar α]

/-- The rows in order. -/
def rows (m : Mat4 α) : List (Vec4 α) := [m.row0, m.row1, m.row2, m.row3]

/-- The matrix with rows and columns exchanged. -/
def transpose (m : Mat4 α) : Mat4 α where
  row0 := ⟨m.row0.x, m.row1.x, m.row2.x, m.row3.x⟩
  row1 := ⟨m.row0.y, m.row1.y, m.row2.y, m.row3.y⟩
  row2 := ⟨m.row0.z, m.row1.z, m.row2.z, m.row3.z⟩
  row3 := ⟨m.row0.w, m.row1.w, m.row2.w, m.row3.w⟩

/-- The products of the rows with a vector. -/
def apply (m : Mat4 α) (v : Vec4 α) : Vec4 α :=
  ⟨m.row0.dot v, m.row1.dot v, m.row2.dot v, m.row3.dot v⟩

/-- The product: every entry is the product of a row of the first factor and a column of the
second. -/
def mul (a b : Mat4 α) : Mat4 α :=
  let columns := b.transpose
  ⟨columns.apply a.row0, columns.apply a.row1, columns.apply a.row2, columns.apply a.row3⟩

instance : Mul (Mat4 α) := ⟨mul⟩

/-- The transform that moves no point. -/
def identity : Mat4 α := ⟨⟨1, 0, 0, 0⟩, ⟨0, 1, 0, 0⟩, ⟨0, 0, 1, 0⟩, ⟨0, 0, 0, 1⟩⟩

/-- The rotation about the first axis with this sine and cosine of the angle. -/
def turnX (s c : α) : Mat4 α :=
  ⟨⟨1, 0, 0, 0⟩, ⟨0, c, -s, 0⟩, ⟨0, s, c, 0⟩, ⟨0, 0, 0, 1⟩⟩

/-- The rotation about the second axis; a positive angle turns forward against the first axis. -/
def turnY (s c : α) : Mat4 α :=
  ⟨⟨c, 0, -s, 0⟩, ⟨0, 1, 0, 0⟩, ⟨s, 0, c, 0⟩, ⟨0, 0, 0, 1⟩⟩

/-- The rotation about the third axis. -/
def turnZ (s c : α) : Mat4 α :=
  ⟨⟨c, -s, 0, 0⟩, ⟨s, c, 0, 0⟩, ⟨0, 0, 1, 0⟩, ⟨0, 0, 0, 1⟩⟩

/-- The rotation about the first axis by an angle in radians. -/
def rotationX (angle : Float) : Mat4 Float := turnX angle.sin angle.cos

/-- The rotation about the second axis by an angle in radians. -/
def rotationY (angle : Float) : Mat4 Float := turnY angle.sin angle.cos

/-- The rotation about the third axis by an angle in radians. -/
def rotationZ (angle : Float) : Mat4 Float := turnZ angle.sin angle.cos

/-- The translation by `t`. -/
def translation (t : Vec3 α) : Mat4 α :=
  ⟨⟨1, 0, 0, t.x⟩, ⟨0, 1, 0, t.y⟩, ⟨0, 0, 1, t.z⟩, ⟨0, 0, 0, 1⟩⟩

/-- The scaling by the coordinates of `s` along the axes. -/
def scaling (s : Vec3 α) : Mat4 α :=
  ⟨⟨s.x, 0, 0, 0⟩, ⟨0, s.y, 0, 0⟩, ⟨0, 0, s.z, 0⟩, ⟨0, 0, 0, 1⟩⟩

/-- The first basis vector. -/
def left (m : Mat4 α) : Vec3 α := m.transpose.row0.xyz

/-- The second basis vector. -/
def up (m : Mat4 α) : Vec3 α := m.transpose.row1.xyz

/-- The third basis vector. -/
def forward (m : Mat4 α) : Vec3 α := m.transpose.row2.xyz

/-- The fourth column without its last entry. -/
def position (m : Mat4 α) : Vec3 α := m.transpose.row3.xyz

/-- The matrix with another position. -/
def withPosition (m : Mat4 α) (p : Vec3 α) : Mat4 α :=
  { m with
    row0 := { m.row0 with w := p.x }
    row1 := { m.row1 with w := p.y }
    row2 := { m.row2 with w := p.z } }

/-- The matrix with these basis vectors and this position. -/
def ofBasis (left up forward position : Vec3 α) : Mat4 α :=
  ⟨⟨left.x, up.x, forward.x, position.x⟩, ⟨left.y, up.y, forward.y, position.y⟩,
    ⟨left.z, up.z, forward.z, position.z⟩, ⟨0, 0, 0, 1⟩⟩

/-- The lengths of the basis vectors. -/
def basisScale (m : Mat4 α) : Vec3 α := ⟨m.left.norm, m.up.norm, m.forward.norm⟩

/-- The image of a point. A fourth coordinate of zero leaves the others undivided. -/
def transformPoint (m : Mat4 α) (p : Vec3 α) : Vec3 α :=
  let q := m.apply (.ofPoint p)
  if Scalar.isZero q.w then q.xyz else q.xyz.shrink q.w

/-- Every entry times `k`. -/
def scale (m : Mat4 α) (k : α) : Mat4 α :=
  ⟨m.row0.scale k, m.row1.scale k, m.row2.scale k, m.row3.scale k⟩

/-- The cofactors, at the place of the entry of the inverse that each one gives. The entries of the
matrix are numbered down its columns. -/
def adjugate (m : Mat4 α) : Mat4 α :=
  let ⟨⟨m0, m4, m8, m12⟩, ⟨m1, m5, m9, m13⟩, ⟨m2, m6, m10, m14⟩, ⟨m3, m7, m11, m15⟩⟩ := m
  { row0 :=
      { x := m5*m10*m15 - m5*m11*m14 - m9*m6*m15 + m9*m7*m14 + m13*m6*m11 - m13*m7*m10
        y := -m4*m10*m15 + m4*m11*m14 + m8*m6*m15 - m8*m7*m14 - m12*m6*m11 + m12*m7*m10
        z := m4*m9*m15 - m4*m11*m13 - m8*m5*m15 + m8*m7*m13 + m12*m5*m11 - m12*m7*m9
        w := -m4*m9*m14 + m4*m10*m13 + m8*m5*m14 - m8*m6*m13 - m12*m5*m10 + m12*m6*m9 }
    row1 :=
      { x := -m1*m10*m15 + m1*m11*m14 + m9*m2*m15 - m9*m3*m14 - m13*m2*m11 + m13*m3*m10
        y := m0*m10*m15 - m0*m11*m14 - m8*m2*m15 + m8*m3*m14 + m12*m2*m11 - m12*m3*m10
        z := -m0*m9*m15 + m0*m11*m13 + m8*m1*m15 - m8*m3*m13 - m12*m1*m11 + m12*m3*m9
        w := m0*m9*m14 - m0*m10*m13 - m8*m1*m14 + m8*m2*m13 + m12*m1*m10 - m12*m2*m9 }
    row2 :=
      { x := m1*m6*m15 - m1*m7*m14 - m5*m2*m15 + m5*m3*m14 + m13*m2*m7 - m13*m3*m6
        y := -m0*m6*m15 + m0*m7*m14 + m4*m2*m15 - m4*m3*m14 - m12*m2*m7 + m12*m3*m6
        z := m0*m5*m15 - m0*m7*m13 - m4*m1*m15 + m4*m3*m13 + m12*m1*m7 - m12*m3*m5
        w := -m0*m5*m14 + m0*m6*m13 + m4*m1*m14 - m4*m2*m13 - m12*m1*m6 + m12*m2*m5 }
    row3 :=
      { x := -m1*m6*m11 + m1*m7*m10 + m5*m2*m11 - m5*m3*m10 - m9*m2*m7 + m9*m3*m6
        y := m0*m6*m11 - m0*m7*m10 - m4*m2*m11 + m4*m3*m10 + m8*m2*m7 - m8*m3*m6
        z := -m0*m5*m11 + m0*m7*m9 + m4*m1*m11 - m4*m3*m9 - m8*m1*m7 + m8*m3*m5
        w := m0*m5*m10 - m0*m6*m9 - m4*m1*m10 + m4*m2*m9 + m8*m1*m6 - m8*m2*m5 } }

/-- The determinant, developed along the first column. -/
def determinant (m : Mat4 α) : α :=
  let c := m.adjugate.row0
  m.row0.x * c.x + m.row1.x * c.y + m.row2.x * c.z + m.row3.x * c.w

/-- The inverse, unless the determinant is zero. -/
def inverse? (m : Mat4 α) : Option (Mat4 α) :=
  let d := m.determinant
  if Scalar.isZero d then none else some (m.adjugate.scale (1 / d))

end Mat4

/-- A transform of the scene. -/
abbrev Transform := Mat4 Float

end VectorScene.Geometry
