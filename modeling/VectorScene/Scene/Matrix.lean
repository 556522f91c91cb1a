import VectorScene.Scene.Vector

/-!
# Matrices of the scene

A matrix is a named transform. On the stage it has three arrows of its own, one along each basis
vector from its position.

## Main definitions

* `Matrix.Options`: what may be chosen for a new matrix
* `Matrix`: matrices of the scene
* `Matrix.arrows`: the arrows along the basis vectors
-/

namespace VectorScene.Scene

open VectorScene.Geometry

namespace Matrix

/-- What may be chosen for a new matrix. -/
structure Options where
  visible : Option Bool := none
  labelled : Option Bool := none
  label : Option String := none

/-- The color of arrows along the left vector. -/
def leftColor : Color := 0xff0000

/-- The color of arrows along the up vector. -/
def upColor : Color := 0x00ff00

/-- The color of arrows along the forward vector. -/
def forwardColor : Color := 0x0000ff

end Matrix

/-- A named transform. -/
structure Matrix where
  name : String
  transform : Transform
  visible : Bool
  /-- Whether the label is shown. -/
  labelled : Bool
  label : String
  handle : Option Handle
  /-- The arrows along the basis vectors, while the matrix is on the stage. -/
  basis : List Vector

namespace Matrix

/-- A matrix that is not on the stage. -/
def build (name : String) (transform : Transform) (o : Options) : Matrix where
  name := name
  transform := transform
  visible := o.visible.getD true
  labelled := o.labelled.getD false
  label := Vector.labelOr o.label name
  handle := none
  basis := []

/-- The options that give the matrix's appearance. -/
def options (m : Matrix) : Options where
  visible := some m.visible
  labelled := some m.labelled
  label := some m.label

/-- The arrow along one basis vector. -/
def arrow (m : Matrix) (letter : String) (column : Point) (color : Color) : Vector :=
  let origin := m.transform.position
  .build (m.name ++ "." ++ letter) origin (origin + column) color { visible := some m.visible }

/-- The arrows along the basis vectors. -/
def arrows (m : Matrix) : List Vector :=
  [m.arrow "x" m.transform.left leftColor, m.arrow "y" m.transform.up upColor,
    m.arrow "z" m.transform.forward forwardColor]

/-- Vectors that enter the stage one after another. -/
def enterAll : List Vector → Stage → List Vector × Stage
  | [], s => ([], s)
  | v :: rest, s =>
    let (v, s) := v.enter s
    let (rest, s) := enterAll rest s
    (v :: rest, s)

/-- The stage after vectors have left it one after another. -/
def leaveAll (vectors : List Vector) (s : Stage) : Stage :=
  vectors.foldl (fun s v => (v.leave s).2) s

/-- Vectors that are shown or hidden one after another. -/
def showAll (visible : Bool) : List Vector → Stage → List Vector × Stage
  | [], s => ([], s)
  | v :: rest, s =>
    let (v, s) := v.setVisible visible s
    let (rest, s) := showAll visible rest s
    (v :: rest, s)

/-- The matrix and its arrows off the stage. -/
def leave (m : Matrix) (s : Stage) : Matrix × Stage :=
  let s := leaveAll m.basis s
  ({ m with handle := none, basis := [] }, match m.handle with
    | some h => s.leave h
    | none => s)

/-- The matrix and its arrows on the stage under new handles. -/
def enter (m : Matrix) (s : Stage) : Matrix × Stage :=
  let (m, s) := m.leave s
  let (h, s) := s.enter m.name m.visible
  let (basis, s) := enterAll m.arrows s
  ({ m with handle := some h, basis }, s)

/-- The matrix and its arrows shown or hidden. -/
def setVisible (m : Matrix) (visible : Bool) (s : Stage) : Matrix × Stage :=
  let s := match m.handle with
    | some h => s.setVisible h visible
    | none => s
  let (basis, s) := showAll visible m.basis s
  ({ m with visible, basis }, s)

instance : Entity Matrix where
  kind := .matrix
  name := Matrix.name
  enter := enter
  leave := leave
  setVisible := Matrix.setVisible
  name_enter _ _ := rfl
  name_setVisible _ _ _ := rfl

end Matrix

end VectorScene.Scene
