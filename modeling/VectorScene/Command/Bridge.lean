import VectorScene.Command.Error
import VectorScene.Script.Evaluation
import VectorScene.Script.Grammar
import VectorScene.Script.Source

/-!
# The bridge

Functions are bound to symbols, and scripts call them by these. What a script declares outside of
blocks and functions is known to the next script.

When a script fails, the error of the last bound function that failed on its way is reported, and
the script's own fault only if there is none.

## Main definitions

* `Value.ofScript`, `Value.toScript`: values on their way between scripts and functions
* `Functions`: what bound functions do
* `Bridge`: the symbols and the variables
* `Bridge.evaluate`: a script
-/

namespace VectorScene.Command

namespace Value

mutual

/-- The value that a value of a script is, or the name of a kind that no value has. -/
def ofScript : Script.Value → Except String Value
  | .unit => .ok absent
  | .bool b => .ok (bool b)
  | .integer i => .ok (int i)
  | .float x => .ok (float x)
  | .char c => .ok (string (String.ofList [c]))
  | .string s => .ok (string s)
  | .array items =>
    match ofScripts items with
    | .ok values => .ok (list values)
    | .error kind => .error kind
  | .map members => .error (Script.Value.map members).kind
  | .range first last closed => .error (Script.Value.range first last closed).kind

/-- The values that values of a script are. -/
def ofScripts : List Script.Value → Except String (List Value)
  | [] => .ok []
  | v :: rest =>
    match ofScript v, ofScripts rest with
    | .ok first, .ok others => .ok (first :: others)
    | .error kind, _ | _, .error kind => .error kind

end

mutual

/-- A value for a script. -/
def toScript : Value → Script.Value
  | absent => .unit
  | bool b => .bool b
  | int i => .integer i
  | float x => .float x
  | string s => .string s
  | list items => .array (toScripts items)

/-- Values for a script. -/
def toScripts : List Value → List Script.Value
  | [] => []
  | v :: rest => toScript v :: toScripts rest

end

mutual

theorem ofScript_toScript (v : Value) : ofScript v.toScript = .ok v := by
  cases v with
  | list items => simp [toScript, ofScript, ofScripts_toScripts items]
  | _ => rfl

theorem ofScripts_toScripts (items : List Value) : ofScripts (toScripts items) = .ok items := by
  cases items with
  | nil => rfl
  | cons v rest =>
    simp [toScripts, ofScripts, ofScript_toScript v, ofScripts_toScripts rest]

end

end Value

/-- The words for a value that no function takes. -/
def refusal (kind : String) : String := s!"values of type '{kind}' cannot be passed to commands"

/-- What bound functions do, and what becomes of printed text. -/
structure Functions (σ : Type) where
  call : String → List Value → σ → Except Error Value × σ
  print : String → σ → σ

/-- The symbols that are bound, in the order of binding, and the variables. -/
structure Bridge where
  symbols : List String := []
  scope : Script.Scope := []

namespace Bridge

/-- Binds a symbol. One that is bound keeps its place. -/
def bind (b : Bridge) (symbol : String) : Bridge :=
  if b.symbols.contains symbol then b else { b with symbols := b.symbols ++ [symbol] }

/-- Whether a symbol is bound. -/
def isBound (b : Bridge) (symbol : String) : Bool := b.symbols.contains symbol

/-- The bridge without variables. -/
def forget (b : Bridge) : Bridge := { b with scope := [] }

variable {σ : Type}

/-- What scripts find: the bound functions. Beside the state, the last error is kept. -/
def host (b : Bridge) (functions : Functions σ) : Script.Host (σ × Option Error) where
  call symbol arguments state :=
    if !b.isBound symbol || parameterLimit < arguments.length then none
    else match Value.ofScripts arguments with
      | .error kind => some (.error (.string (refusal kind)), state)
      | .ok values =>
        match functions.call symbol values state.1 with
        | (.ok v, s) => some (.ok v.toScript, (s, state.2))
        | (.error e, s) => some (.error (.string e.message), (s, some e))
  print text state := (functions.print text state.1, state.2)

/-- What a script comes to, given the last error of a bound function. -/
def conclude (result : Except Script.Fault Script.Value) (last : Option Error) :
    Except Error Value :=
  match result with
  | .ok v =>
    match Value.ofScript v with
    | .ok v => .ok v
    | .error kind => .error (.evaluation s!"Runtime error: {refusal kind}")
  | .error fault => .error (last.getD (.fault fault))

/-- Evaluates a script. One that is not well formed runs nothing. -/
def evaluate (b : Bridge) (functions : Functions σ) (text : String) (s : σ) :
    Except Error Value × Bridge × σ :=
  match Script.Program.ofText? (Script.prepare text) with
  | .error line => (.error (.script line), b, s)
  | .ok program =>
    let (result, m) := program.run (b.host functions) ⟨(s, none), b.scope⟩
    (conclude result m.host.2, { b with scope := m.scope }, m.host.1)

end Bridge

end VectorScene.Command
