import VectorScene.Scene.Error
import VectorScene.Text.Blank
import VectorScene.Decimal.Reading

/-!
# Registries

A registry holds the entities of one kind under their names, and the names in the order of creation.
The two are changed together. Requests address an entity by a key, which is its name or a shortcut:
`$` is the entity created last and `$-N` the one created `N` before it. A text that starts with `$`
is never looked up as a name.

## Main definitions

* `Registry`: the entities of one kind
* `Registry.resolve`: the name that a key stands for
* `Registry.get?`, `Registry.require`: the entity that a key stands for
* `Registry.create`, `Registry.replace`, `Registry.destroy`, `Registry.setVisible`,
  `Registry.clear`: the changes, which take the entities on and off the stage
-/

namespace VectorScene.Scene

/-- The entities of one kind. -/
structure Registry (α : Type) where
  /-- The entities under their names, in no order that matters. -/
  stored : List (String × α)
  /-- The names in the order of creation. -/
  order : List String

namespace Registry

/-- The registry without entities. -/
def empty {α : Type} : Registry α := ⟨[], []⟩

variable {α : Type} [Entity α]

/-- The names in the order of creation. -/
def names (r : Registry α) : List String := r.order

/-- How many entities there are. -/
def size (r : Registry α) : Nat := r.stored.length

/-- The entity with this very name. -/
def named? (r : Registry α) (name : String) : Option α := r.stored.lookup name

/-- The entities in the order of creation. -/
def entities (r : Registry α) : List α := r.order.filterMap r.named?

/-- How far before the last entity a shortcut points, given what follows its `$`. -/
def offset? : List Char → Option Nat
  | [] => some 0
  | '-' :: rest =>
    let text := Text.trim rest
    let digits := if text.head? = some '+' then text.tail else text
    if digits.isEmpty || !digits.all Decimal.isDigit then none
    else some (Decimal.natOfDecimal digits)
  | _ => none

/-- The name that a key stands for. -/
def resolve (r : Registry α) (key : String) : Option String :=
  match key.toList with
  | '$' :: rest => do r.order.reverse[← offset? rest]?
  | _ => if (r.named? key).isSome then some key else none

/-- The entity that a key stands for. -/
def get? (r : Registry α) (key : String) : Option α := do r.named? (← r.resolve key)

/-- The entity that a key stands for, or the error that there is none. -/
def require (r : Registry α) (key : String) : Except Error α :=
  match r.get? key with
  | some e => .ok e
  | none => .error (.notFound (Entity.kind α) key)

/-- Whether a key stands for an entity. -/
def contains (r : Registry α) (key : String) : Bool := (r.resolve key).isSome

/-- What is stored, without what is stored under a name. -/
def without (stored : List (String × α)) (name : String) : List (String × α) :=
  stored.filter (·.1 != name)

/-- Adds an entity behind the others, unless its name is taken. -/
def create (r : Registry α) (e : α) (s : Stage) : Except Error (Registry α × Stage) :=
  let name := Entity.name e
  if (r.named? name).isSome then .error (.duplicateName (Entity.kind α) name)
  else
    let (e, s) := Entity.enter e s
    .ok (⟨(name, e) :: r.stored, r.order ++ [name]⟩, s)

/-- Takes away the entity that a key stands for, and gives it as it is off the stage. -/
def destroy (r : Registry α) (key : String) (s : Stage) : Option (α × Registry α × Stage) := do
  let name ← r.resolve key
  let e ← r.named? name
  let (e, s) := Entity.leave e s
  return (e, ⟨without r.stored name, r.order.erase name⟩, s)

/-- Puts an entity in the place of the one that a key stands for. The name of the new one may be
that of the old one, and may not be that of a third. -/
def replace (r : Registry α) (key : String) (e : α) (s : Stage) :
    Except Error (Registry α × Stage) :=
  match r.resolve key with
  | none => .error (.notFound (Entity.kind α) key)
  | some old =>
    let name := Entity.name e
    if name ≠ old ∧ (r.named? name).isSome then
      .error (.duplicateName (Entity.kind α) name)
    else
      let s := match r.named? old with
        | some previous => (Entity.leave previous s).2
        | none => s
      let order := if old ∈ r.order then r.order.replace old name else r.order ++ [name]
      let (e, s) := Entity.enter e s
      .ok (⟨(name, e) :: without (without r.stored old) name, order⟩, s)

/-- Shows or hides the entity that a key stands for, if there is one. -/
def setVisible (r : Registry α) (key : String) (visible : Bool) (s : Stage) :
    Option (Registry α × Stage) := do
  let name ← r.resolve key
  let e ← r.named? name
  let (e, s) := Entity.setVisible e visible s
  return ({ r with stored := (name, e) :: without r.stored name }, s)

/-- What is still stored, and the stage, after the entity of one name has left both. -/
def release (state : List (String × α) × Stage) (name : String) : List (String × α) × Stage :=
  match state.1.lookup name with
  | some e => (without state.1 name, (Entity.leave e state.2).2)
  | none => state

/-- Takes all entities off the stage, in the order of creation. -/
def clear (r : Registry α) (s : Stage) : Registry α × Stage :=
  (empty, (r.order.foldl release (r.stored, s)).2)

end Registry

end VectorScene.Scene
