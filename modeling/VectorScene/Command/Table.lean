import VectorScene.Command.Handler

/-!
# The command table

## Main definitions

* `Command`: a definition with a handler
* `Command.Table`: commands under distinct names
* `Command.Table.get?`, `Command.Table.register`, `Command.Table.remove`: the operations
* `Command.helpText`, `Command.listing`: the texts about commands
* `Command.Recipe`: commands put together from others
-/

namespace VectorScene

/-- A definition with a handler. -/
structure Command where
  definition : Command.Definition
  handler : Command.Args → Command.Handler

namespace Command

/-- The name of a command. -/
def name (c : Command) : String := c.definition.name

/-- Commands under distinct names. -/
structure Table where
  commands : List Command

namespace Table

/-- The table without commands. -/
def empty : Table := ⟨[]⟩

/-- The command of a name. -/
def get? (t : Table) (name : String) : Option Command := t.commands.find? (·.name == name)

/-- The table without the command of a name. -/
def erase (t : Table) (name : String) : Table := ⟨t.commands.filter (·.name != name)⟩

/-- Adds a command, in the place of one of the same name, unless its definition is at fault. -/
def register (t : Table) (c : Command) : Except Error Table :=
  match c.definition.fault? with
  | some fault => .error (.definition c.name fault)
  | none => .ok ⟨(t.erase c.name).commands ++ [c]⟩

/-- Takes a command away, and gives it. -/
def remove (t : Table) (name : String) : Option Command × Table := (t.get? name, t.erase name)

/-- The definitions of all commands, sorted by name. -/
def definitions (t : Table) : List Definition :=
  (t.commands.map (·.definition)).mergeSort (·.name ≤ ·.name)

/-- The names of all commands, sorted. -/
def names (t : Table) : List String := t.definitions.map (·.name)

/-- How many commands there are. -/
def size (t : Table) : Nat := t.commands.length

end Table

/-- The end of a line in texts that are shown. -/
def lineEnd : String := "\r\n"

/-- The names of the commands that the terminal lists, one a line. -/
def listing (definitions : List Definition) : String :=
  Text.joined lineEnd ((definitions.filter (·.exposure.isListed)).map (·.name))

/-- The text about one command. -/
def helpText (definitions : List Definition) (name : String) : String :=
  match definitions.find? (·.name == name) with
  | none => s!"{name} is not a valid command."
  | some d =>
    if d.description.isEmpty then
      s!"Additional details about the command, \"{name}\", have not yet been specified."
    else s!"{d.description}{lineEnd}Example Usage: {d.example?}"

/-! ### Recipes -/

/-- What a command that is put together from others does: it prints, fails, runs calls and gives
their results, or gives an argument or a fixed value. -/
structure Recipe where
  print : Option String := none
  fails : Option String := none
  calls : Option (List Call) := none
  echo : Option String := none
  returns : Value := .absent

namespace Recipe

/-- The steps behind printing. -/
def body (r : Recipe) (args : Args) : Handler :=
  match r.fails with
  | some text => .done (.error (.evaluation text))
  | none =>
    match r.calls with
    | some calls => .collect false calls fun results => .done (.ok (.list results))
    | none =>
      match r.echo with
      | some key => .done (.ok ((args.get? key).getD .absent))
      | none => .done (.ok r.returns)

/-- The steps of a recipe. -/
def handler (r : Recipe) (args : Args) : Handler :=
  match r.print with
  | some text => .print text (r.body args)
  | none => r.body args

end Recipe

end Command

end VectorScene
