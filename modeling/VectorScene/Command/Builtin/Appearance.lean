import VectorScene.Command.Plan

/-!
# Camera and settings

## Main definitions

* `Builtin.appearanceCommands`: the commands of this module
-/

namespace VectorScene.Command.Builtin

open VectorScene.Geometry Scene

/-- Sets the field of view. -/
def cameraSetFOV : Builtin where
  definition := {
    name := "cameraSetFOV"
    description :=
      "Sets the camera's vertical field of view to the input angle in degrees."
    example? := "cameraSetFOV(verticalFOVAngleInDegrees)"
    parameters := [required "angleInDegrees" .float] }
  plan view args := do
    let degrees ← args.float "angleInDegrees"
    return .change (.camera { view.scene.camera with fieldOfView := degrees } (.float degrees))

/-- Turns the camera to the start of a vector. -/
def cameraLookAtVector : Builtin where
  definition := {
    name := "cameraLookAtVector"
    description :=
      "Forces the camera to look at a specific vector in the scene."
    example? := "cameraLookAtVector(\"vectorName\")"
    parameters := oneVector }
  plan view args := do
    let target := (← view.vector args "vector").start
    return .change (.camera { view.scene.camera with target } (.ofPoint target))

/-- Switches turning on or off. -/
def cameraAutoRotate : Builtin where
  definition := {
    name := "cameraAutoRotate"
    description :=
      "Controls whether or not the camera rotates automatically. autoRotateEnabled should be " ++
      "either \"true\" or \"false\"."
    example? := "cameraAutoRotate(autoRotateEnabled)"
    parameters := [required "autoRotateEnabled" .bool] }
  plan view args := do
    let on ← args.bool "autoRotateEnabled"
    return .change (.camera (view.scene.camera.turning on) (.bool on))

/-- Changes a setting, whose type the value has to have. -/
def setSceneSetting : Builtin where
  definition := {
    name := "setSceneSetting"
    description :=
      "Changes one scene setting, such as \"showGrid\" or \"backgroundColor\".  The value must " ++
      "match the setting's type."
    example? := "setSceneSetting(\"showGrid\", false)"
    parameters := [required "name" .string, required "value" .any] }
  plan view args := do
    let name ← args.string "name"
    match args.get? "value" with
    | none => throw (.missing "value")
    | some value =>
      let settings ← (view.scene.settings.setNamed name value.toDocument).mapError .scene
      return .change (.settings settings value)

/-- Gives the value of a setting. -/
def getSceneSetting : Builtin where
  definition := {
    name := "getSceneSetting"
    description :=
      "Returns the current value of one scene setting."
    example? := "getSceneSetting(\"backgroundColor\")"
    exposure := .console
    parameters := [required "name" .string] }
  plan view args := do
    let d ← (view.scene.settings.getNamed (← args.string "name")).mapError .scene
    return .answer ((Value.ofDocument? d).getD .absent)

/-- Gives every setting its default. -/
def resetSceneSettings : Builtin where
  definition := {
    name := "resetSceneSettings"
    description :=
      "Restores every scene setting to its default value."
    example? := "resetSceneSettings()" }
  plan _ _ := .ok (.change (.settings {} .absent))

/-- The commands of this module. -/
def appearanceCommands : List Builtin :=
  [cameraSetFOV, cameraLookAtVector, cameraAutoRotate, setSceneSetting, getSceneSetting,
    resetSceneSettings]

end VectorScene.Command.Builtin
