import VectorScene.Command.Builtin.Appearance
import VectorScene.Command.Builtin.Editing
import VectorScene.Command.Builtin.Entities
import VectorScene.Command.Builtin.MatrixMath
import VectorScene.Command.Builtin.Measuring
import VectorScene.Command.Builtin.Meta
import VectorScene.Command.Builtin.VectorMath

/-!
# The built-in commands

## Main definitions

* `Builtin.all`: the built-in commands
* `Table.builtin`: the table of them
-/

namespace VectorScene.Command

/-- The built-in commands. -/
def Builtin.all : List Builtin :=
  metaCommands ++ vectorMathCommands ++ editingCommands ++ measuringCommands
    ++ matrixMathCommands ++ entitiesCommands ++ appearanceCommands

/-- The table of the built-in commands. -/
def Table.builtin : Table := ⟨Builtin.all.map Builtin.command⟩

end VectorScene.Command
