import VectorScene.Command.Plan

/-!
# Calculating with vectors

Every command here but `normalizeVector` makes new vectors under generated names, and leaves those
it reads as they are.

## Main definitions

* `Builtin.vectorMathCommands`: the commands of this module
-/

namespace VectorScene.Command.Builtin

open VectorScene.Geometry Scene

/-- Gives a vector the length one. -/
def normalizeVector : Builtin where
  definition := {
    name := "normalizeVector"
    description :=
      "Forces the input vector's length to be 1 unit in length."
    example? := "normalizeVector(\"vectorName\")"
    parameters := oneVector }
  plan view args := do
    let v ← view.vector args "vector"
    return .change (.replaceVector v.name v.name ⟨v.start, v.start + v.normal, v.options⟩ false)

/-- The sum of two vectors. -/
def addVectors : Builtin where
  definition := {
    name := "addVectors"
    description :=
      "Creates a new vector which represents the addition of the two input vectors."
    example? := "addVectors(\"vectorNameA\", \"vectorNameB\")"
    parameters := twoVectors }
  plan view args := do
    let a ← view.vector args "vectorA"
    let b ← view.vector args "vectorB"
    return .change (.resultVector ⟨a.start + b.start, a.tip + b.tip, a.derivedOptions⟩)

/-- The difference of two vectors. -/
def subtractVectors : Builtin where
  definition := {
    name := "subtractVectors"
    description :=
      "Creates a new vector which represents the subtraction of the second input vector from " ++
      "the first."
    example? := "subtractVectors(\"vectorNameA\", \"vectorNameB\")"
    parameters := twoVectors }
  plan view args := do
    let a ← view.vector args "vectorA"
    let b ← view.vector args "vectorB"
    return .change (.resultVector ⟨a.start - b.start, a.tip - b.tip, a.derivedOptions⟩)

/-- A vector times a number, from the same start. -/
def scaleVector : Builtin where
  definition := {
    name := "scaleVector"
    description :=
      "Creates a new vector which represents the input vector scaled by the scaleFactor."
    example? := "scaleVector(\"vectorName\", scaleFactor)"
    parameters := [required "vector" .string, required "scalar" .float] }
  plan view args := do
    let v ← view.vector args "vector"
    let k ← args.float "scalar"
    let tip := v.start + v.normal.scale (v.magnitude * k)
    return .change (.resultVector ⟨v.start, tip, v.derivedOptions⟩)

/-- The vector product of two directions. -/
def crossProduct : Builtin where
  definition := {
    name := "crossProduct"
    description :=
      "Creates a new vector, starting at the origin, which represents the cross product of the " ++
      "two input vectors."
    example? := "crossProduct(\"vectorNameA\", \"vectorNameB\")"
    parameters := twoVectors }
  plan view args := do
    let a ← view.vector args "vectorA"
    let b ← view.vector args "vectorB"
    let product := a.displacement.cross b.displacement
    return .change (.resultVector ⟨.zero, product, a.derivedOptions⟩)

/-- The projection of one direction onto another; onto a vector of length zero it is zero. -/
def projectVector : Builtin where
  definition := {
    name := "projectVector"
    description :=
      "Creates a new vector which represents the projection of the first input vector onto the " ++
      "second input vector."
    example? := "projectVector(\"vectorNameA\", \"vectorNameB\")"
    parameters := twoVectors }
  plan view args := do
    let a ← view.vector args "vectorA"
    let b ← view.vector args "vectorB"
    let onto := b.displacement
    let square := onto.dot onto
    let projection :=
      if Scalar.isZero square then .zero else onto.scale (a.displacement.dot onto / square)
    return .change (.resultVector ⟨.zero, projection, a.derivedOptions⟩)

/-- The reflection of a direction along another. -/
def reflectVector : Builtin where
  definition := {
    name := "reflectVector"
    description :=
      "Creates a new vector which represents the first input vector being reflected along the " ++
      "second input vector."
    example? := "reflectVector(\"vectorName\", \"normalVectorName\")"
    parameters := [required "vector" .string, required "normal" .string] }
  plan view args := do
    let v ← view.vector args "vector"
    let normal := (← view.vector args "normal").normal
    let direction := v.displacement
    let tip := direction - normal.scale (2.0 * direction.dot normal)
    return .change (.resultVector ⟨v.start, tip, v.derivedOptions⟩)

/-- The opposite of a direction. -/
def negateVector : Builtin where
  definition := {
    name := "negateVector"
    description :=
      "Creates a new vector which represents the negation of the input vector."
    example? := "negateVector(\"vectorName\")"
    parameters := oneVector }
  plan view args := do
    let v ← view.vector args "vector"
    return .change (.resultVector ⟨v.start, -v.displacement, v.derivedOptions⟩)

/-- A vector moved to start at a point. -/
def translateVector : Builtin where
  definition := {
    name := "translateVector"
    description :=
      "Creates a new vector which represents the translation of the input vector to the input " ++
      "(x,y,z) position."
    example? := "translateVector(\"vectorName\", x, y, z)"
    parameters :=
      [required "vector" .string, required "startX" .float, required "startY" .float,
        required "startZ" .float] }
  plan view args := do
    let v ← view.vector args "vector"
    let start : Point := ⟨← args.float "startX", ← args.float "startY", ← args.float "startZ"⟩
    return .change (.resultVector ⟨start, start + v.displacement, v.derivedOptions⟩)

/-- A vector moved to start where another one starts. -/
def translateVectorToPoint : Builtin where
  definition := {
    name := "translateVectorToPoint"
    description :=
      "Creates a new vector which represents the first input vector moved to start where the " ++
      "second input vector starts."
    example? := "translateVectorToPoint(\"fromVectorName\", \"toVectorName\")"
    parameters := [required "from" .string, required "to" .string] }
  plan view args := do
    let v ← view.vector args "from"
    let place ← view.vector args "to"
    return .change (.resultVector ⟨place.start, place.start + v.displacement, v.derivedOptions⟩)

/-- A vector moved along itself by a number of its own lengths. -/
def moveVector : Builtin where
  definition := {
    name := "moveVector"
    description :=
      "Creates a new vector which represents the translation along the input vector by the " ++
      "number of input units."
    example? := "moveVector(\"vectorName\", amountToMoveInUnits)"
    parameters := [required "vector" .string, required "units" .float] }
  plan view args := do
    let v ← view.vector args "vector"
    let units ← args.float "units"
    let start := v.start.lerp v.tip units
    let tip := v.start.lerp v.tip (units + 1.0)
    return .change (.resultVector ⟨start, tip, v.derivedOptions⟩)

/-- A vector between two others. -/
def lerpVector : Builtin where
  definition := {
    name := "lerpVector"
    description :=
      "Creates a new vector which represents the linear interpolation between the two input " ++
      "vectors.  Generally the input t value will range between 0 and 1."
    example? := "lerpVector(\"vectorNameA\", \"vectorNameB\", t)"
    parameters := [required "vectorA" .string, required "vectorB" .string, required "t" .float] }
  plan view args := do
    let a ← view.vector args "vectorA"
    let b ← view.vector args "vectorB"
    let t ← args.float "t"
    return .change (.resultVector ⟨a.start.lerp b.start t, a.tip.lerp b.tip t, a.derivedOptions⟩)

/-- The left and the up vector of the frame with a vector as its forward one. -/
def createAxisFromVector : Builtin where
  definition := {
    name := "createAxisFromVector"
    description :=
      "Creates two new vectors relative to the input forward vector that complete an " ++
      "orthonormal axis."
    example? := "createAxisFromVector(\"vectorName\")"
    parameters := oneVector }
  plan view args := do
    let v ← view.vector args "vector"
    match Frame.ofForward? v.tip none with
    | none => throw (.argument "vector" .noAxis)
    | some axis =>
      let options : Scene.Vector.Options := { mode := some v.mode }
      return .change (.resultVectors [⟨v.start, axis.left, options⟩, ⟨v.start, axis.up, options⟩])

/-- The image of a vector under a matrix. -/
def multiplyVectorByMatrix : Builtin where
  definition := {
    name := "multiplyVectorByMatrix"
    description :=
      "Creates a new vector that is the result of multiplying an input vector by an input " ++
      "matrix."
    example? := "multiplyVectorByMatrix(\"vectorName\", \"matrixName\")"
    parameters := [required "vector" .string, required "matrix" .string] }
  plan view args := do
    let v ← view.vector args "vector"
    let m := (← view.matrix args "matrix").transform
    let options : Scene.Vector.Options := { mode := some v.mode, scale := some m.basisScale }
    return .change (.resultVector ⟨m.transformPoint v.start, m.transformPoint v.tip, options⟩)

/-- A dashed line between two vectors, labelled with its length. -/
def distanceBetweenVectors : Builtin where
  definition := {
    name := "distanceBetweenVectors"
    description :=
      "Creates a vector that represents and displays the distance between the two input " ++
      "vectors."
    example? := "distanceBetweenVectors(\"vectorNameA\", \"vectorNameB\")"
    parameters := twoVectors }
  plan view args := do
    let a := (← view.vector args "vectorA").anchor
    let b := (← view.vector args "vectorB").anchor
    let label := "distance = " ++ Decimal.fixed 2 (a - b).norm
    let options : Scene.Vector.Options :=
      { mode := some .dashedLine, labelled := some true, label := some label }
    return .change (.resultVector ⟨a, b, options⟩)

/-- The arc between two vectors, labelled with the angle. -/
def angleBetweenVectors : Builtin where
  definition := {
    name := "angleBetweenVectors"
    description :=
      "Creates an object in the scene that represents the angle between the two input vectors."
    example? := "angleBetweenVectors(\"vectorNameA\", \"vectorNameB\", angleInDegrees)"
    parameters :=
      [required "vectorA" .string, required "vectorB" .string, optional "angleInDegrees" .bool] }
  plan view args := do
    let a ← view.vector args "vectorA"
    let b ← view.vector args "vectorB"
    let inDegrees := (← args.bool? "angleInDegrees").getD false
    let angle := (angleBetween? a.displacement b.displacement).getD 0.0
    let label :=
      if inDegrees then "angle = " ++ Decimal.fixed 2 (toDegrees angle) ++ " deg"
      else "angle = " ++ Decimal.fixed 2 angle ++ " rad"
    let options : Scene.Vector.Options :=
      { mode := some .angle, labelled := some true, label := some label
        basisA := some a.name, basisB := some b.name }
    let start := a.start + a.normal.scale 0.3
    let tip := b.start + b.normal.scale 0.3
    return .change (.resultVector ⟨start, tip, options⟩)

/-- The commands of this module. -/
def vectorMathCommands : List Builtin :=
  [normalizeVector, addVectors, subtractVectors, scaleVector, crossProduct, projectVector,
    reflectVector, negateVector, translateVector, translateVectorToPoint, moveVector, lerpVector,
    createAxisFromVector, multiplyVectorByMatrix, distanceBetweenVectors, angleBetweenVectors]

end VectorScene.Command.Builtin
