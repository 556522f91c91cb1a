import VectorScene.Command.Call
import VectorScene.Scene.State

/-!
# Handlers

What a command does is a tree of steps. A step reads, changes the scene, prints, clears the history
or runs another command, and goes on with what came of it. The steps say nothing of recording: that
belongs to the engine.

## Main definitions

* `Workspace`: what changes of the scene work on
* `View`: what a handler can read
* `Handler`: the steps of a command
* `Handler.collect`: runs calls one after another
-/

namespace VectorScene.Command

/-- The scene and the stream of random numbers. -/
structure Workspace where
  scene : Scene.State
  draws : Draws

/-- What a handler can read: the scene, the history, and the definitions of all commands. -/
structure View where
  scene : Scene.State
  history : List Call
  definitions : List Definition

/-- The steps of a command. -/
inductive Handler where
  /-- The end. -/
  | done (result : Except Error Value)
  | look (next : View → Handler)
  | change (step : Workspace → Except Scene.Error Value × Workspace)
      (next : Except Scene.Error Value → Handler)
  | clearHistory (next : Handler)
  | print (text : String) (next : Handler)
  /-- Another command; the flag says whether it counts as called from a menu. -/
  | call (surface : Bool) (call : Call) (next : Except Error Value → Handler)

namespace Handler

/-- Runs calls in order and goes on with their results, or ends at the first error. -/
def collect (surface : Bool) : List Call → (List Value → Handler) → Handler
  | [], next => next []
  | first :: rest, next => .call surface first fun
    | .ok v => collect surface rest fun vs => next (v :: vs)
    | .error e => .done (.error e)

end Handler

end VectorScene.Command
