/-!
# Options of the terminal

Every option but the one for help takes a file, and the last file of an option counts. Reading ends
at the first fault or at the option for help, whichever comes first.

## Main definitions

* `Options`: the files that are given
* `Options.ofArguments?`: the options in the arguments of the program
* `usage`: the text about the options
-/

namespace VectorScene.Terminal

/-- The files that are given. -/
structure Options where
  settings : Option String := none
  script : Option String := none
  replay : Option String := none
  log : Option String := none
deriving DecidableEq, Repr

/-- What is wrong with the arguments. -/
inductive OptionFault where
  | unknown (argument : String)
  | noFile (option : String)
deriving DecidableEq, Repr

/-- The text about the options. -/
def usage : String :=
  "Usage: vecviz [OPTIONS]\n\nOptions:\n" ++
  "  --settings <file>  Load scene settings from a JSON file\n" ++
  "  --script <file>    Evaluate an expression script before the prompt\n" ++
  "  --replay <file>    Replay a JSON command list before the prompt\n" ++
  "  --log <file>       Append every recorded command to a file\n" ++
  "  --help             Show this message"

/-- The words for a fault. -/
def OptionFault.message : OptionFault → String
  | unknown argument => s!"unknown option '{argument}'"
  | noFile option => s!"option '{option}' needs a file argument"

namespace Options

/-- The options with a file for one of them, which is known by its name. -/
def withFile? (o : Options) (name file : String) : Option Options :=
  match name with
  | "--settings" => some { o with settings := some file }
  | "--script" => some { o with script := some file }
  | "--replay" => some { o with replay := some file }
  | "--log" => some { o with log := some file }
  | _ => none

/-- The options with those in further arguments; none if help is asked for. -/
def adding (o : Options) : List String → Except OptionFault (Option Options)
  | [] => .ok (some o)
  | [name] =>
    if name = "--help" ∨ name = "-h" then .ok none
    else if (o.withFile? name "").isSome then .error (.noFile name)
    else .error (.unknown name)
  | name :: file :: rest =>
    if name = "--help" ∨ name = "-h" then .ok none
    else match o.withFile? name file with
      | some o => o.adding rest
      | none => .error (.unknown name)

/-- The options in the arguments of the program; none if help is asked for. -/
def ofArguments? (arguments : List String) : Except OptionFault (Option Options) :=
  ({} : Options).adding arguments

/-- The files that have to be there. -/
def inputs (o : Options) : List String := o.settings.toList ++ o.replay.toList ++ o.script.toList

end Options

end VectorScene.Terminal
