import VectorScene.Command.Plan

/-!
# Calculating with matrices

Every command here makes new matrices or vectors under generated names, and leaves the matrices it
reads as they are.

## Main definitions

* `Builtin.matrixMathCommands`: the commands of this module
-/

namespace VectorScene.Command.Builtin

open VectorScene.Geometry Scene

/-- The product of two matrices. -/
def multiplyMatrices : Builtin where
  definition := {
    name := "multiplyMatrices"
    description :=
      "Creates a new matrix which represents the product of the two input matrices."
    example? := "multiplyMatrices(\"matrixNameA\", \"matrixNameB\")"
    parameters := [required "matrixA" .string, required "matrixB" .string] }
  plan view args := do
    let a ← view.matrix args "matrixA"
    let b ← view.matrix args "matrixB"
    return .change (.resultMatrix (a.transform * b.transform))

/-- A matrix turned about its left axis. -/
def rotateMatrixAboutLeftAxis : Builtin where
  definition := {
    name := "rotateMatrixAboutLeftAxis"
    description :=
      "Creates a new matrix which represents the rotation of the input matrix about the Left " ++
      "axis by some angle."
    example? := "rotateMatrixAboutLeftAxis(\"matrix\", angleIsInDegrees, angle)"
    parameters :=
      [required "matrix" .string, required "angleIsInDegrees" .bool, required "angle" .float] }
  plan view args := do
    let m ← view.matrix args "matrix"
    let angle ← args.angle "angleIsInDegrees"
    return .change (.resultMatrix (m.transform * .rotationX angle))

/-- A matrix turned about its up axis. -/
def rotateMatrixAboutUpAxis : Builtin where
  definition := {
    name := "rotateMatrixAboutUpAxis"
    description :=
      "Creates a new matrix which represents the rotation of the input matrix about the Up " ++
      "axis by some angle."
    example? := "rotateMatrixAboutUpAxis(\"matrix\", angleIsInDegrees, angle)"
    parameters :=
      [required "matrix" .string, required "angleIsInDegrees" .bool, required "angle" .float] }
  plan view args := do
    let m ← view.matrix args "matrix"
    let angle ← args.angle "angleIsInDegrees"
    return .change (.resultMatrix (m.transform * .rotationY angle))

/-- A matrix turned about its forward axis. -/
def rotateMatrixAboutForwardAxis : Builtin where
  definition := {
    name := "rotateMatrixAboutForwardAxis"
    description :=
      "Creates a new matrix which represents the rotation of the input matrix about the " ++
      "Forward axis by some angle."
    example? := "rotateMatrixAboutForwardAxis(\"matrix\", angleIsInDegrees, angle)"
    parameters :=
      [required "matrix" .string, required "angleIsInDegrees" .bool, required "angle" .float] }
  plan view args := do
    let m ← view.matrix args "matrix"
    let angle ← args.angle "angleIsInDegrees"
    return .change (.resultMatrix (m.transform * .rotationZ angle))

/-- A matrix moved along its own axes. -/
def translateMatrix : Builtin where
  definition := {
    name := "translateMatrix"
    description :=
      "Creates a new matrix which represents the translation of the input matrix by some input " ++
      "3d vector."
    example? := "translateMatrix(\"matrix\", [x,y,z])"
    parameters := [required "matrix" .string, required "displacementVector" .point] }
  plan view args := do
    let m ← view.matrix args "matrix"
    let t ← args.point "displacementVector"
    return .change (.resultMatrix (m.transform * .translation t))

/-- A matrix scaled along its own axes. -/
def scaleMatrix : Builtin where
  definition := {
    name := "scaleMatrix"
    description :=
      "Creates a new matrix which represents the scaling of the input matrix by some input 3d " ++
      "vector."
    example? := "scaleMatrix(\"matrix\", [x,y,z])"
    parameters := [required "matrix" .string, required "scaleVector" .point] }
  plan view args := do
    let m ← view.matrix args "matrix"
    let s ← args.point "scaleVector"
    return .change (.resultMatrix (m.transform * .scaling s))

/-- The inverse of a matrix, which has to have one. -/
def invertMatrix : Builtin where
  definition := {
    name := "invertMatrix"
    description :=
      "Creates a new matrix which represents the inverse of the input matrix."
    example? := "invertMatrix(\"matrix\")"
    parameters := oneMatrix }
  plan view args := do
    let m ← view.matrix args "matrix"
    match m.transform.inverse? with
    | some inverse => return .change (.resultMatrix inverse)
    | none => throw (.argument "matrix" .singular)

/-- A matrix with rows and columns exchanged. -/
def transposeMatrix : Builtin where
  definition := {
    name := "transposeMatrix"
    description :=
      "Creates a new matrix which represents the transpose of the input matrix."
    example? := "transposeMatrix(\"matrix\")"
    parameters := oneMatrix }
  plan view args := do
    let m ← view.matrix args "matrix"
    return .change (.resultMatrix m.transform.transpose)

/-- A waypoint at the position of a matrix that looks along its forward vector. -/
def extractPositionVectorFromMatrix : Builtin where
  definition := {
    name := "extractPositionVectorFromMatrix"
    description :=
      "Creates a vector at the position encoded within the input matrix."
    example? := "extractPositionVectorFromMatrix(\"matrix\")"
    parameters := oneMatrix }
  plan view args := do
    let m := (← view.matrix args "matrix").transform
    let look := (m.forward.normalize? 0.0).getD m.forward
    let options : Scene.Vector.Options := { mode := some .waypoint }
    return .change (.resultVector ⟨m.position, m.position + look, options⟩)

/-- The three basis vectors of a matrix, from its position. -/
def extractVectorsFromMatrix : Builtin where
  definition := {
    name := "extractVectorsFromMatrix"
    description :=
      "Creates 3 vectors representing the input matrix's up, left, and forward vectors.  The " ++
      "resulting vectors will be positioned based on the position encoded within the input " ++
      "matrix."
    example? := "extractVectorsFromMatrix(\"matrix\")"
    parameters := oneMatrix }
  plan view args := do
    let m := (← view.matrix args "matrix").transform
    let part (column : Point) (color : Color) : Sketch :=
      ⟨m.position, m.position + column, { color := some color }⟩
    return .change (.resultVectors
      [part m.left Scene.Matrix.leftColor, part m.up Scene.Matrix.upColor,
        part m.forward Scene.Matrix.forwardColor])

/-- The commands of this module. -/
def matrixMathCommands : List Builtin :=
  [multiplyMatrices, rotateMatrixAboutLeftAxis, rotateMatrixAboutUpAxis,
    rotateMatrixAboutForwardAxis, translateMatrix, scaleMatrix, invertMatrix, transposeMatrix,
    extractPositionVectorFromMatrix, extractVectorsFromMatrix]

end VectorScene.Command.Builtin
