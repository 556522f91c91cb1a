import VectorScene.Scene.Camera
import VectorScene.Scene.Matrix
import VectorScene.Scene.Registry
import VectorScene.Scene.Settings

/-!
# The scene

The scene is what commands work on: the vectors and the matrices, the stage they stand on, the
camera and the settings, the numbers of the next generated names, and whether a menu of the entities
has to be made anew.

## Main definitions

* `State`: the scene
* `State.createVector`, `State.replaceVector`, `State.destroyVector`, `State.showVector` and the
  same for matrices: changes of one registry
* `State.nextResultName`, `State.nextRandomName`: generated names
* `State.clear`: the scene without entities
-/

namespace VectorScene.Scene

/-- What commands work on. -/
structure State where
  vectors : Registry Vector := .empty
  matrices : Registry Matrix := .empty
  stage : Stage := .empty
  camera : Camera := {}
  settings : Settings := {}
  resultCount : Nat := 0
  randomCount : Nat := 0
  menuStale : Bool := false

namespace State

/-! ### Vectors -/

/-- Adds a vector. -/
def createVector (s : State) (v : Vector) : Except Error State := do
  let (vectors, stage) ← s.vectors.create v s.stage
  return { s with vectors, stage }

/-- Puts a vector in the place of another. -/
def replaceVector (s : State) (key : String) (v : Vector) : Except Error State := do
  let (vectors, stage) ← s.vectors.replace key v s.stage
  return { s with vectors, stage }

/-- Takes a vector away. -/
def destroyVector (s : State) (key : String) : Option (Vector × State) := do
  let (v, vectors, stage) ← s.vectors.destroy key s.stage
  return (v, { s with vectors, stage })

/-- Shows or hides a vector. -/
def showVector (s : State) (key : String) (visible : Bool) : Option State := do
  let (vectors, stage) ← s.vectors.setVisible key visible s.stage
  return { s with vectors, stage }

/-! ### Matrices -/

/-- Adds a matrix. -/
def createMatrix (s : State) (m : Matrix) : Except Error State := do
  let (matrices, stage) ← s.matrices.create m s.stage
  return { s with matrices, stage }

/-- Puts a matrix in the place of another. -/
def replaceMatrix (s : State) (key : String) (m : Matrix) : Except Error State := do
  let (matrices, stage) ← s.matrices.replace key m s.stage
  return { s with matrices, stage }

/-- Takes a matrix away. -/
def destroyMatrix (s : State) (key : String) : Option (Matrix × State) := do
  let (m, matrices, stage) ← s.matrices.destroy key s.stage
  return (m, { s with matrices, stage })

/-- Shows or hides a matrix. -/
def showMatrix (s : State) (key : String) (visible : Bool) : Option State := do
  let (matrices, stage) ← s.matrices.setVisible key visible s.stage
  return { s with matrices, stage }

/-! ### Names, menu and clearing -/

/-- The generated name for a result. -/
def resultName (n : Nat) : String := s!"Result{n}"

/-- The generated name for a random vector. -/
def randomName (n : Nat) : String := s!"Random Vector{n}"

/-- The name for the next result. -/
def nextResultName (s : State) : String × State :=
  (resultName s.resultCount, { s with resultCount := s.resultCount + 1 })

/-- The name for the next random vector. -/
def nextRandomName (s : State) : String × State :=
  (randomName s.randomCount, { s with randomCount := s.randomCount + 1 })

/-- Asks for a new menu. -/
def requestMenu (s : State) : State := { s with menuStale := true }

/-- Whether a new menu was asked for, and the scene in which that has been heard. -/
def takeMenu (s : State) : Bool × State := (s.menuStale, { s with menuStale := false })

/-- The scene without entities, whose generated names start anew. -/
def clear (s : State) : State :=
  let (vectors, stage) := s.vectors.clear s.stage
  let (matrices, stage) := s.matrices.clear stage
  { s with vectors, matrices, stage, resultCount := 0, randomCount := 0, menuStale := true }

end State

end VectorScene.Scene
