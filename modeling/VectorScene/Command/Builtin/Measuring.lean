import VectorScene.Command.Plan

/-!
# Measuring

Commands that give a number, which is shown when they are called from a menu.

## Main definitions

* `Builtin.measuringCommands`: the commands of this module
-/

namespace VectorScene.Command.Builtin

open VectorScene.Geometry Scene

/-- The distance between two vectors. -/
def computeDistanceBetweenVectors : Builtin where
  definition := {
    name := "computeDistanceBetweenVectors"
    description :=
      "Returns the distance between two input vectors."
    example? := "computeDistanceBetweenVectors(\"vectorA\", \"vectorB\")"
    exposure := .console
    parameters := twoVectors }
  plan view args := do
    let a := (← view.vector args "vectorA").anchor
    let b := (← view.vector args "vectorB").anchor
    return .answer (.float (a - b).norm)

/-- The scalar product of the tips of two vectors. -/
def dotProduct : Builtin where
  definition := {
    name := "dotProduct"
    description :=
      "Returns the dot product of the two input vectors."
    example? := "dotProduct(\"vectorA\", \"vectorB\")"
    exposure := .console
    parameters := twoVectors }
  plan view args := do
    let a := (← view.vector args "vectorA").tip
    let b := (← view.vector args "vectorB").tip
    return .answer (.float (a.dot b))

/-- The angle between two vectors; a vector too short to have a direction has none. -/
def computeAngleBetweenVectors : Builtin where
  definition := {
    name := "computeAngleBetweenVectors"
    description :=
      "Returns the angle between two input vectors.  If input parameter, angleInDegrees, is " ++
      "true, the result will be in degrees.  Otherwise the result will be in radians."
    example? := "computeAngleBetweenVectors(\"vectorA\", \"vectorB\", angleInDegrees)"
    exposure := .console
    parameters :=
      [required "vectorA" .string, required "vectorB" .string, optional "angleInDegrees" .bool] }
  plan view args := do
    let a ← view.vector args "vectorA"
    let b ← view.vector args "vectorB"
    match angleBetween? a.displacement b.displacement with
    | none => return .answer (.float (0.0 / 0.0))
    | some angle =>
      let inDegrees := (← args.bool? "angleInDegrees").getD false
      return .answer (.float (if inDegrees then toDegrees angle else angle))

/-- An angle in radians as degrees. -/
def convertRadiansToDegrees : Builtin where
  definition := {
    name := "convertRadiansToDegrees"
    description :=
      "Converts an angle in radians to an angle in degrees."
    example? := "convertRadiansToDegrees(angle)"
    exposure := .console
    parameters := [required "angle" .float] }
  plan _ args := do
    return .answer (.float (toDegrees (← args.float "angle")))

/-- An angle in degrees as radians. -/
def convertDegreesToRadians : Builtin where
  definition := {
    name := "convertDegreesToRadians"
    description :=
      "Converts an angle in degrees to an angle in radians."
    example? := "convertDegreesToRadians(angle)"
    exposure := .console
    parameters := [required "angle" .float] }
  plan _ args := do
    return .answer (.float (toRadians (← args.float "angle")))

/-- The commands of this module. -/
def measuringCommands : List Builtin :=
  [computeDistanceBetweenVectors, dotProduct, computeAngleBetweenVectors, convertRadiansToDegrees,
    convertDegreesToRadians]

end VectorScene.Command.Builtin
