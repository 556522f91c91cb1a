import VectorScene.Scene.Stage

/-!
# Entities

What a registry can hold: something with a name that enters the stage when it is added and leaves
it when it is removed.

## Main definitions

* `Kind`: the kinds of entities
* `Entity`: what a registry asks of what it holds
-/

namespace VectorScene.Scene

/-- The kinds of entities. -/
inductive Kind where
  | vector
  | matrix
deriving DecidableEq, Repr

namespace Kind

/-- The word for a kind in messages. -/
def message : Kind → String
  | vector => "vector"
  | matrix => "matrix"

end Kind

/-- What a registry asks of what it holds. Entering and leaving give the entity with and without its
handles, and nothing that happens on the stage changes a name. -/
class Entity (α : Type) where
  kind : Kind
  name : α → String
  enter : α → Stage → α × Stage
  leave : α → Stage → α × Stage
  setVisible : α → Bool → Stage → α × Stage
  name_enter (e : α) (s : Stage) : name (enter e s).1 = name e
  name_setVisible (e : α) (visible : Bool) (s : Stage) : name (setVisible e visible s).1 = name e

attribute [simp] Entity.name_enter Entity.name_setVisible

end VectorScene.Scene
