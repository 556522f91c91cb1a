import VectorScene.Command.Plan

/-!
# Changing entities in place

`updateVector` and `updateMatrix` put a changed entity in the place of the old one. The other
commands here run one of the two, so that the history shows both calls.

## Main definitions

* `Builtin.editingCommands`: the commands of this module
-/

namespace VectorScene.Command.Builtin

open VectorScene.Geometry Scene

/-- Changes a vector. A label that shows the old name goes on showing the name. -/
def updateVector : Builtin where
  definition := {
    name := "updateVector"
    exposure := .internal
    parameters :=
      [required "vector" .string, optional "newVectorName" .string,
        optional "textToRender" .string, optional "originX" .float, optional "originY" .float,
        optional "originZ" .float, optional "endX" .float, optional "endY" .float,
        optional "endZ" .float, optional "color" .int, optional "renderMode" .string,
        optional "renderText" .bool, optional "visible" .bool, optional "scaleVector" .point] }
  plan view args := do
    let v ← view.vector args "vector"
    let name := (← args.string? "newVectorName").getD v.name
    let start : Point :=
      ⟨(← args.float? "originX").getD v.start.x, (← args.float? "originY").getD v.start.y,
        (← args.float? "originZ").getD v.start.z⟩
    let tip : Point :=
      ⟨(← args.float? "endX").getD v.tip.x, (← args.float? "endY").getD v.tip.y,
        (← args.float? "endZ").getD v.tip.z⟩
    let mode := (← args.mode? "renderMode").getD v.mode
    let label := (← args.string? "textToRender").getD v.label
    let options : Scene.Vector.Options := {
      color := some ((← args.color?).getD v.color)
      mode := some mode
      labelled := some ((← args.bool? "renderText").getD v.labelled)
      label := some (if label = v.name then name else label)
      visible := some ((← args.bool? "visible").getD v.visible)
      scale := some ((← args.point? "scaleVector").getD v.scale)
      basisA := v.basisA
      basisB := v.basisB }
    return .change (.replaceVector v.name name ⟨start, tip, options⟩ true)

/-- Gives a vector another name. -/
def renameVector : Builtin where
  definition := {
    name := "renameVector"
    description :=
      "Renames a vector.  The input name will be used to reference the vector."
    example? := "renameVector(\"oldVectorName\", \"newVectorName\")"
    parameters := [required "oldVectorName" .string, required "newVectorName" .string] }
  plan _ args := do
    return .delegate ⟨"updateVector", .ofList
      [("vector", .string (← args.string "oldVectorName")),
        ("newVectorName", .string (← args.string "newVectorName"))]⟩

/-- Gives a vector another render mode. -/
def setVectorRenderMode : Builtin where
  definition := {
    name := "setVectorRenderMode"
    description :=
      "Sets a vector's render mode.  Valid input render modes are \"vector\", \"waypoint\", " ++
      "\"line\", \"dashedLine\", \"man\", \"dog\", \"spaceship\", \"triangle\", \"box\", " ++
      "\"torus\", and \"plane\"."
    example? := "setVectorRenderMode(\"vectorName\", \"renderMode\")"
    parameters := [required "vector" .string, required "renderMode" .string] }
  plan _ args := do
    return .delegate ⟨"updateVector", .ofList
      [("vector", .string (← args.string "vector")),
        ("renderMode", .string (← args.string "renderMode"))]⟩

/-- Gives a vector a label and shows it. -/
def setVectorDisplayText : Builtin where
  definition := {
    name := "setVectorDisplayText"
    description :=
      "Sets a vector's display text and turns the text on."
    example? := "setVectorDisplayText(\"vectorName\", \"textToDisplay\")"
    parameters := [required "vector" .string, required "textToDisplay" .string] }
  plan _ args := do
    return .delegate ⟨"updateVector", .ofList
      [("vector", .string (← args.string "vector")), ("renderText", .bool true),
        ("textToRender", .string (← args.string "textToDisplay"))]⟩

/-- Shows or hides the label of a vector. -/
def showVectorDisplayText : Builtin where
  definition := {
    name := "showVectorDisplayText"
    description :=
      "Controls whether or not the vector's display text will be drawn in the scene.  The " ++
      "input parameter \"displayTextEnabled\" should be either true or false."
    example? := "showVectorDisplayText(\"vectorName\", displayTextEnabled)"
    parameters := [required "vector" .string, required "displayTextEnabled" .bool] }
  plan _ args := do
    return .delegate ⟨"updateVector", .ofList
      [("vector", .string (← args.string "vector")),
        ("renderText", .bool (← args.bool "displayTextEnabled"))]⟩

/-- Changes a matrix. A label that shows the old name goes on showing the name. -/
def updateMatrix : Builtin where
  definition := {
    name := "updateMatrix"
    exposure := .internal
    parameters :=
      [required "oldMatrixName" .string, optional "newMatrixName" .string,
        optional "matrix" .transform, optional "visible" .bool, optional "renderText" .bool,
        optional "textToRender" .string] }
  plan view args := do
    let m ← view.matrix args "oldMatrixName"
    let name := (← args.string? "newMatrixName").getD m.name
    let label := (← args.string? "textToRender").getD m.label
    let options : Scene.Matrix.Options := {
      visible := some ((← args.bool? "visible").getD m.visible)
      labelled := some ((← args.bool? "renderText").getD m.labelled)
      label := some (if label = m.name then name else label) }
    let transform := (← args.transform? "matrix").getD m.transform
    return .change (.replaceMatrix m.name name transform options)

/-- Gives a matrix another name. -/
def renameMatrix : Builtin where
  definition := {
    name := "renameMatrix"
    description :=
      "Renames a matrix.  The input name will be used to reference the matrix."
    example? := "renameMatrix(\"oldMatrixName\", \"newMatrixName\")"
    parameters := [required "oldMatrixName" .string, required "newMatrixName" .string] }
  plan _ args := do
    return .delegate ⟨"updateMatrix", .ofList
      [("oldMatrixName", .string (← args.string "oldMatrixName")),
        ("newMatrixName", .string (← args.string "newMatrixName"))]⟩

/-- The commands of this module. -/
def editingCommands : List Builtin :=
  [updateVector, renameVector, setVectorRenderMode, setVectorDisplayText, showVectorDisplayText,
    updateMatrix, renameMatrix]

end VectorScene.Command.Builtin
