import VectorScene.Command.Plan

/-!
# Listing, making and destroying entities

## Main definitions

* `Builtin.entitiesCommands`: the commands of this module
-/

namespace VectorScene.Command.Builtin

open VectorScene.Geometry Scene

/-- A point in the text about a vector. -/
def pointText (p : Point) : String :=
  "[" ++ Text.joined ", " (p.toList.map Decimal.Layout.plain.render) ++ "]"

/-- A row in the text about a matrix. -/
def rowText (r : Vec4 Float) : String :=
  "[" ++ Text.joined ", " (r.toList.map (Decimal.fixed 4)) ++ "]"

/-- The names of the vectors, one a line. -/
def listVectors : Builtin where
  definition := {
    name := "listVectors"
    description :=
      "Returns the list of vectors within the scene."
    example? := "listVectors()" }
  plan view _ := .ok (.answer (.string (Text.joined lineEnd view.scene.vectors.names)))

/-- The names of the matrices, one a line. -/
def listMatrices : Builtin where
  definition := {
    name := "listMatrices"
    description :=
      "Returns the list of matrices within the scene."
    example? := "listMatrices()" }
  plan view _ := .ok (.answer (.string (Text.joined lineEnd view.scene.matrices.names)))

/-- The properties of a vector, one a line. -/
def dumpVector : Builtin where
  definition := {
    name := "dumpVector"
    description :=
      "Displays the properties of an input vector."
    example? := "dumpVector(\"vector\")"
    parameters := oneVector }
  plan view args := do
    let v ← view.vector args "vector"
    return .answer (.string (Text.joined lineEnd
      [s!"name: {v.name}", s!"render mode: {v.mode.name}",
        s!"start point = {pointText v.start}", s!"end point = {pointText v.tip}",
        s!"magnitude = {Decimal.fixed 2 v.magnitude}", s!"normalized = {pointText v.normal}"]))

/-- The length of a vector. -/
def computeVectorMagnitude : Builtin where
  definition := {
    name := "computeVectorMagnitude"
    description :=
      "Returns the magnitude or length of a vector."
    example? := "computeVectorMagnitude(\"vector\")"
    parameters := oneVector }
  plan view args := do
    return .answer (.float (← view.vector args "vector").magnitude)

/-- The name and the rows of a matrix, one a line. -/
def dumpMatrix : Builtin where
  definition := {
    name := "dumpMatrix"
    description :=
      "Displays the properties of an input matrix."
    example? := "dumpMatrix(\"matrix\")"
    parameters := oneMatrix }
  plan view args := do
    let m ← view.matrix args "matrix"
    let lines := s!"name: {m.name}" :: m.transform.rows.map rowText
    return .answer (.string (Text.joined lineEnd lines))

/-- Makes a vector. -/
def createVector : Builtin where
  definition := {
    name := "createVector"
    description :=
      "Creates a new vector within the scene.  startPosition and endPosition should be arrays " ++
      "of length 3.  For example [0,1,0]."
    example? := "createVector(vectorName, [startPosition], [endPosition])"
    parameters :=
      [required "name" .string, required "startPosition" .point, required "endPosition" .point,
        optional "color" .int, optional "renderMode" .string, optional "renderText" .bool,
        optional "textToRender" .string, optional "visible" .bool,
        optional "scaleVector" .point] }
  plan _ args := do
    let mode ← args.mode? "renderMode"
    let options : Scene.Vector.Options := {
      color := ← args.color?
      mode := mode
      labelled := ← args.bool? "renderText"
      label := ← args.string? "textToRender"
      visible := ← args.bool? "visible"
      scale := ← args.point? "scaleVector" }
    return .change (.newVector (← args.string "name")
      ⟨← args.point "startPosition", ← args.point "endPosition", options⟩)

/-- Makes a vector from the origin. -/
def createVector2 : Builtin where
  definition := {
    name := "createVector2"
    description :=
      "Creates a new vector within the scene that starts from the origin [0,0,0].  The input " ++
      "endPosition should be and array of length 3.  For example [0,1,0]."
    example? := "createVector2(vectorName, [endPosition])"
    parameters := [required "name" .string, required "endPosition" .point] }
  plan _ args := do
    return .change (.newVector (← args.string "name") ⟨.zero, ← args.point "endPosition", {}⟩)

/-- Makes a vector from the origin with a direction and a length. -/
def createVector3 : Builtin where
  definition := {
    name := "createVector3"
    description :=
      "Creates a new vector within the scene that starts from the origin [0,0,0].  The input " ++
      "vector should be and array of length 3 and will be normalized.  For example [0,1,0].  " ++
      "The input magnitude of the vector represents the desired length of the vector."
    example? := "createVector3(vectorName, [directionVector], magnitude)"
    parameters :=
      [required "name" .string, required "directionVector" .point, required "magnitude" .float] }
  plan _ args := do
    let name ← args.string "name"
    let direction ← args.point "directionVector"
    let tip := Scene.Vector.tipAlong direction (← args.float "magnitude")
    return .change (.newVector name ⟨.zero, tip, {}⟩)

/-- Makes a copy of a vector. A label that shows the name of the vector shows that of the copy. -/
def duplicateVector : Builtin where
  definition := {
    name := "duplicateVector"
    description :=
      "Given the name of an existing vector in the scene, duplicate creates a new instance of " ++
      "that vector."
    example? := "duplicateVector(\"newVectorName\", \"vectorName\")"
    parameters := [required "name" .string, required "vector" .string] }
  plan view args := do
    let v ← view.vector args "vector"
    let name ← args.string "name"
    let label := if v.label = v.name then [] else [("textToRender", Value.string v.label)]
    return .delegate ⟨"createVector", .ofList
      ([("name", .string name), ("startPosition", .ofPoint v.start),
        ("endPosition", .ofPoint v.tip), ("color", .int (Int64.ofInt v.color.toNat)),
        ("renderMode", .string v.mode.name), ("renderText", .bool v.labelled),
        ("visible", .bool v.visible), ("scaleVector", .ofPoint v.scale)] ++ label)⟩

/-- Makes random vectors. -/
def createRandomVector : Builtin where
  definition := {
    name := "createRandomVector"
    description :=
      "Creates a random vector.\r\nInput Argument Information:\r\n\"count\" represents how " ++
      "many vectors will be created.\r\n\"maxLength\" is the maximum length of the " ++
      "vectors.\r\n\"normalize\" represents whether or not the vectors should be normalize " ++
      "(i.e. unit length of 1).\r\n\"renderMode\" represents how the vector should be " ++
      "rendered.\r\nThe options are \"vector\", \"waypoint\", \"line\", \"dashedLine\", " ++
      "\"man\", \"dog\", and \"box\"."
    example? := "createRandomVector(count, maxLength, normalize, renderMode)"
    parameters :=
      [required "count" .int, required "maxLength" .float, required "normalize" .bool,
        optional "renderMode" .string] }
  plan _ args := do
    let count ← args.int "count"
    let length ← args.float "maxLength"
    let unit ← args.bool "normalize"
    let mode := (← args.mode? "renderMode").getD .vector
    return .change (.randomVectors count.toInt.toNat length unit mode)

/-- Destroys a vector. -/
def destroyVector : Builtin where
  definition := {
    name := "destroyVector"
    description :=
      "Destroys the input vector and removes it from the scene."
    example? := "destroyVector(\"vectorName\")"
    parameters := oneVector }
  plan _ args := do
    return .change (.destroyVector (← args.string "vector"))

/-- Destroys a matrix. -/
def destroyMatrix : Builtin where
  definition := {
    name := "destroyMatrix"
    description :=
      "Destroys the input matrix and removes it from the scene."
    example? := "destroyMatrix(\"matrixName\")"
    parameters := oneMatrix }
  plan _ args := do
    return .change (.destroyMatrix (← args.string "matrix"))

/-- Shows or hides a vector. -/
def showVector : Builtin where
  definition := {
    name := "showVector"
    description :=
      "Controls whether or not a vector is visible in the scene."
    example? := "showVector(\"vectorName\", visible)"
    parameters := [required "vector" .string, required "visible" .bool] }
  plan _ args := do
    return .change (.showVector (← args.string "vector") (← args.bool "visible"))

/-- Shows or hides a matrix. -/
def showMatrix : Builtin where
  definition := {
    name := "showMatrix"
    description :=
      "Controls whether or not a matrix is visible in the scene."
    example? := "showMatrix(\"matrixName\", visible)"
    parameters := [required "matrix" .string, required "visible" .bool] }
  plan _ args := do
    return .change (.showMatrix (← args.string "matrix") (← args.bool "visible"))

/-- Makes a matrix. -/
def createMatrix : Builtin where
  definition := {
    name := "createMatrix"
    description :=
      "Creates a new 4x4 matrix within the scene.  The input matrix should be an array of 4 " ++
      "vectors."
    example? := "createMatrix(matrixName, [matrix])"
    parameters := [required "name" .string, required "matrix" .transform] }
  plan _ args := do
    return .change (.newMatrix (← args.string "name") (← args.transform "matrix"))

/-- Makes the identity matrix. -/
def createIdentityMatrix : Builtin where
  definition := {
    name := "createIdentityMatrix"
    description :=
      "Creates a new 4x4 identity matrix within the scene."
    example? := "createIdentityMatrix(matrixName)"
    parameters := [required "name" .string] }
  plan _ args := do
    return .change (.newMatrix (← args.string "name") .identity)

/-- Makes a rotation about the left axis, in the place of a matrix of the name. -/
def createLeftRotationMatrix : Builtin where
  definition := {
    name := "createLeftRotationMatrix"
    description :=
      "Creates a new matrix within the scene representing a rotation about the Left Axis.  The " ++
      "input angle is in degrees when angleIsInDegrees is true, otherwise in radians."
    example? := "createLeftRotationMatrix(matrixName, angleIsInDegrees, angle)"
    parameters :=
      [required "name" .string, required "angleIsInDegrees" .bool, required "angle" .float] }
  plan _ args := do
    let angle ← args.angle "angleIsInDegrees"
    return .change (.putMatrix (← args.string "name") (.rotationX angle))

/-- Makes a rotation about the up axis, in the place of a matrix of the name. -/
def createUpRotationMatrix : Builtin where
  definition := {
    name := "createUpRotationMatrix"
    description :=
      "Creates a new matrix within the scene representing a rotation about the Up Axis.  The " ++
      "input angle is in degrees when angleIsInDegrees is true, otherwise in radians."
    example? := "createUpRotationMatrix(matrixName, angleIsInDegrees, angle)"
    parameters :=
      [required "name" .string, required "angleIsInDegrees" .bool, required "angle" .float] }
  plan _ args := do
    let angle ← args.angle "angleIsInDegrees"
    return .change (.putMatrix (← args.string "name") (.rotationY angle))

/-- Makes a rotation about the forward axis, in the place of a matrix of the name. -/
def createForwardRotationMatrix : Builtin where
  definition := {
    name := "createForwardRotationMatrix"
    description :=
      "Creates a new matrix within the scene representing a rotation about the Forward Axis.  " ++
      "The input angle is in degrees when angleIsInDegrees is true, otherwise in radians."
    example? := "createForwardRotationMatrix(matrixName, angleIsInDegrees, angle)"
    parameters :=
      [required "name" .string, required "angleIsInDegrees" .bool, required "angle" .float] }
  plan _ args := do
    let angle ← args.angle "angleIsInDegrees"
    return .change (.putMatrix (← args.string "name") (.rotationZ angle))

/-- Makes a scaling. -/
def createScaleMatrix : Builtin where
  definition := {
    name := "createScaleMatrix"
    description :=
      "Creates a new matrix within the scene representing a scaled identity matrix."
    example? := "createScaleMatrix(matrixName, [scaleX, scaleY, scaleZ])"
    parameters := [required "name" .string, required "scaleVector" .point] }
  plan _ args := do
    let s ← args.point "scaleVector"
    return .change (.newMatrix (← args.string "name") (.scaling s))

/-- Makes a translation. -/
def createTranslationMatrix : Builtin where
  definition := {
    name := "createTranslationMatrix"
    description :=
      "Creates a new matrix within the scene representing a translation from the origin."
    example? := "createTranslationMatrix(matrixName, [x, y, z])"
    parameters := [required "name" .string, required "translationVector" .point] }
  plan _ args := do
    let t ← args.point "translationVector"
    return .change (.newMatrix (← args.string "name") (.translation t))

/-- Makes the frame with a vector as its forward one, in the place of a matrix of the name. -/
def createMatrixFromForwardVector : Builtin where
  definition := {
    name := "createMatrixFromForwardVector"
    description :=
      "Creates a new matrix within the scene whose up and left vectors are orthogonal to the " ++
      "input forward vector."
    example? := "createMatrixFromForwardVector(matrixName, vectorName)"
    parameters := [required "name" .string, required "vector" .string] }
  plan view args := do
    let v ← view.vector args "vector"
    match Frame.ofForward? v.tip (some v.start) with
    | none => throw (.argument "vector" .noForward)
    | some m => return .change (.putMatrix (← args.string "name") m)

/-- Destroys all entities. -/
def clearScene : Builtin where
  definition := {
    name := "clearScene"
    description :=
      "Destroys all vectors in the scene.  Does not reset command history."
    example? := "clearScene()" }
  plan _ _ := .ok (.change .clear)

/-- Restores the first layout. -/
def resetScene : Builtin where
  definition := {
    name := "resetScene"
    description :=
      "Restores the scene to its default layout.  The input argument \"resetCommandHistory\" " ++
      "is a boolean that determines whether or not the command history should be cleared."
    example? := "resetScene(resetCommandHistory)"
    parameters := [optional "resetCommandHistory" .bool] }
  plan _ args := do
    return .reset ((← args.bool? "resetCommandHistory").getD false)

/-- The commands of this module. -/
def entitiesCommands : List Builtin :=
  [listVectors, listMatrices, dumpVector, computeVectorMagnitude, dumpMatrix, createVector,
    createVector2, createVector3, duplicateVector, createRandomVector, destroyVector,
    destroyMatrix, showVector, showMatrix, createMatrix, createIdentityMatrix,
    createLeftRotationMatrix, createUpRotationMatrix, createForwardRotationMatrix,
    createScaleMatrix, createTranslationMatrix, createMatrixFromForwardVector, clearScene,
    resetScene]

end VectorScene.Command.Builtin
