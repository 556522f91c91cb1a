import VectorScene.Command.Change
import VectorScene.Command.Table

/-!
# Plans of built-in commands

A built-in command reads its arguments and the scene and then either fails, which changes nothing,
or settles on a plan: an answer, a change, or other calls.

## Main definitions

* `Plan`: what a built-in command settles on
* `Plan.handler`: the steps of a plan
* `Builtin`: a definition with a planner
* `View.vector`, `View.matrix`: the entity that an argument names
-/

namespace VectorScene.Command

open VectorScene.Geometry Scene

/-- What a built-in command settles on. -/
inductive Plan where
  | answer (result : Value)
  | change (change : Change)
  /-- The history is cleared. -/
  | forget (result : Value)
  /-- The first layout; the flag says whether the history is cleared too. -/
  | reset (forgets : Bool)
  /-- Another command. -/
  | delegate (call : Call)
  /-- A command list. -/
  | replay (calls : List Call)

namespace Plan

/-- The steps of a change. -/
def changeHandler (change : Change) : Handler :=
  .change change.run fun result => .done (result.mapError .scene)

/-- The steps of a plan. -/
def handler : Plan → Handler
  | answer result => .done (.ok result)
  | change c => changeHandler c
  | forget result => .clearHistory (.done (.ok result))
  | reset forgets =>
    if forgets then .clearHistory (changeHandler .reset) else changeHandler .reset
  | delegate call => .call false call .done
  | replay calls => .collect true calls fun results => .done (.ok (.list results))

end Plan

/-- A definition with a planner. -/
structure Builtin where
  definition : Definition
  plan : View → Args → Except Error Plan

namespace Builtin

/-- The command of a built-in one. -/
def command (b : Builtin) : Command where
  definition := b.definition
  handler args := .look fun view =>
    match b.plan view args with
    | .ok plan => plan.handler
    | .error e => .done (.error e)

/-- The parameters of commands on one vector. -/
def oneVector : List Parameter := [required "vector" .string]

/-- The parameters of commands on two vectors. -/
def twoVectors : List Parameter := [required "vectorA" .string, required "vectorB" .string]

/-- The parameters of commands on one matrix. -/
def oneMatrix : List Parameter := [required "matrix" .string]

end Builtin

/-! ### What planners read -/

namespace View

/-- The vector that an argument names. -/
def vector (view : View) (args : Args) (key : String) : Except Error Scene.Vector := do
  let name ← args.string key
  (view.scene.vectors.require name).mapError .scene

/-- The matrix that an argument names. -/
def matrix (view : View) (args : Args) (key : String) : Except Error Scene.Matrix := do
  let name ← args.string key
  (view.scene.matrices.require name).mapError .scene

end View

namespace Args

/-- The color of an argument, which has to be one of 24 bits. -/
def color? (args : Args) : Except Error (Option Color) := do
  match ← args.int? "color" with
  | none => return none
  | some i =>
    if 0 ≤ i.toInt ∧ i.toInt ≤ Color.limit.toNat then return some (UInt32.ofNat i.toInt.toNat)
    else throw (.argument "color" (.notAColor i))

/-- The render mode of an argument. -/
def mode? (args : Args) (key : String) : Except Error (Option RenderMode) := do
  match ← args.string? key with
  | none => return none
  | some name =>
    match RenderMode.ofName? name with
    | some mode => return some mode
    | none => throw (.scene (.unknownMode name))

/-- The angle in radians of an argument, which is in degrees if a switch says so. -/
def angle (args : Args) (inDegrees : String) : Except Error Float := do
  let angle ← args.float "angle"
  if (← args.bool? inDegrees).getD false then return toRadians angle else return angle

end Args

end VectorScene.Command
