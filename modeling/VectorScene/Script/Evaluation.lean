import VectorScene.Script.Arithmetic
import VectorScene.Script.Scope
import VectorScene.Script.Syntax

/-!
# Evaluation of scripts

A script runs on the state of a host, which offers functions to it and prints for it. Whatever stops
a script leaves the variables and the host as they are then.

A pure statement is run only if its value is wanted: it is the last one of a script, of a function,
of a block that is an expression, or of a block at such a place.

## Main definitions

* `Host`: what a script finds around it
* `Machine`, `Stop`, `Run`: the state of a run, what can interrupt it, and its steps
* `evaluate`, `run`: the value of an expression and of a statement
* `Program.run`: the value of a script
-/

namespace VectorScene.Script

/-- What a script finds around it: functions, which may raise a value, and a printer. -/
structure Host (σ : Type) where
  call : String → List Value → σ → Option (Except Value Value × σ)
  print : String → σ → σ

/-- The state of a run. -/
structure Machine (σ : Type) where
  host : σ
  scope : Scope

/-- What interrupts the run of a statement. -/
inductive Stop where
  | fault (fault : Fault)
  | raised (value : Value)
  | left (value : Value)
  | skipped
  | given (value : Value)

/-- The steps of a run. -/
abbrev Run (σ : Type) := ExceptT Stop (StateM (Machine σ))

namespace Run

variable {σ α : Type}

/-- Stops at a fault. -/
def fault (f : Fault) : Run σ α := throw (.fault f)

/-- Goes on with a result, or stops at its fault. -/
def lift (result : Except Fault α) : Run σ α :=
  match result with
  | .ok a => return a
  | .error f => fault f

/-- Goes on with something, or stops at a fault if there is nothing. -/
def orFault (a : Option α) (f : Fault) : Run σ α :=
  match a with
  | some a => return a
  | none => fault f

/-- The truth value of a condition. -/
def truth (v : Value) : Run σ Bool :=
  match v with
  | .bool b => return b
  | _ => fault .notTruth

/-- The part of a variable. -/
def getPart (name : String) (keys : List Key) : Run σ Value := do
  lift ((← get).scope.get name keys)

/-- Changes a part of a variable. -/
def putPart (name : String) (keys : List Key) (v : Value) : Run σ Unit := do
  let scope ← lift ((← get).scope.put name keys v)
  modify fun m => { m with scope }

/-- Declares a variable. -/
def declare (x : Variable) : Run σ Unit := modify fun m => { m with scope := x :: m.scope }

/-- Runs what stands in a block: variables declared inside are not known behind it. -/
def enclosed (inside : Run σ α) : Run σ α := fun m =>
  let (result, after) := inside m
  (result, { after with scope := after.scope.drop (after.scope.length - m.scope.length) })

/-- Runs the body of a loop once: the value with which it leaves the loop, if it does. -/
def turn (body : Run σ Value) : Run σ (Option Value) := fun m =>
  match body m with
  | (.ok _, m) => (.ok none, m)
  | (.error .skipped, m) => (.ok none, m)
  | (.error (.left v), m) => (.ok (some v), m)
  | (.error stop, m) => (.error stop, m)

/-- Runs the body of a function with variables of its own: the value that it gives, and what its
subject has become. -/
def calling (scope : Scope) (body : Run σ Value) : Run σ (Value × Option Value) := fun m =>
  let (result, after) := body { m with scope }
  let subject := (after.scope.find? "this").map (·.value)
  let after := { after with scope := m.scope }
  match result with
  | .ok v | .error (.given v) => (.ok (v, subject), after)
  | .error stop => (.error stop, after)

/-- Raises the failure that is being dealt with once more, if nothing else is raised. -/
def again (failure : Stop) (rescue : Run σ Value) : Run σ Value := fun m =>
  match rescue m with
  | (.ok _, m) => (.ok .unit, m)
  | (.error (.raised .unit), m) => (.error failure, m)
  | (.error stop, m) => (.error stop, m)

/-- Runs something, and deals with its failure. A value that was raised is known by it; a fault is
known by a map. -/
def attempt (body : Run σ Value) (rescue : Value → Run σ Value) : Run σ Value := fun m =>
  match body m with
  | (.ok _, m) => (.ok .unit, m)
  | (.error (.raised v), m) => again (.raised v) (rescue v) m
  | (.error (.fault f), m) =>
    if f.isCatchable then
      again (.fault f) (rescue (.map [("message", .string f.message)])) m
    else (.error (.fault f), m)
  | (.error stop, m) => (.error stop, m)

end Run

/-! ### Functions -/

/-- The functions that every script finds: the value, and what the first argument becomes. -/
def commonFunction? (name : String) (arguments : List Value) : Option (Value × Option Value) :=
  match name, arguments with
  | "len", [v] => v.length?.map fun n => (.integer (Int64.ofNat n), none)
  | "push", [v, item] => (v.grow? item).map fun grown => (.unit, some grown)
  | _, _ => none

/-- Whether a function prints. -/
def isPrinter (name : String) (arguments : List Value) : Bool :=
  name == "print" && arguments.length ≤ 1

/-- Whether a function prints for those who look for mistakes. -/
def isTracer (name : String) (arguments : List Value) : Bool :=
  name == "debug" && arguments.length ≤ 1

/-- Calls a function that is not part of the script: the value, and what the first argument becomes.
The functions that every script finds come before those of the host. -/
def callOutside {σ : Type} (host : Host σ) (name : String) (arguments : List Value) :
    Run σ (Value × Option Value) := fun m =>
  if isPrinter name arguments then
    let text := String.join (arguments.map (·.display))
    (.ok (.unit, none), { m with host := host.print text m.host })
  else if isTracer name arguments then (.ok (.unit, none), m)
  else match commonFunction? name arguments with
    | some result => (.ok result, m)
    | none =>
      match host.call name arguments m.host with
      | some (.ok v, host) => (.ok (v, none), { m with host })
      | some (.error v, host) => (.error (.raised v), { m with host })
      | none => (.error (.fault (.unknownFunction name arguments.length)), m)

/-- The old value of an assignment combined with a new one. An array takes what is added to it as
one more item, unless that is an array, too. -/
def combined (o : Operator) (old new : Value) : Except Fault Value :=
  match o, old, new with
  | .add, .array _, .array _ => o.apply old new
  | .add, .array items, v => .ok (.array (items ++ [v]))
  | _, _, _ => o.apply old new

/-! ### Loops -/

/-- What a loop has still to go through. -/
inductive Source where
  | values (rest : List Value)
  /-- The integers from one on and up to another. -/
  | integers (next stop : Int)

namespace Source

/-- What there is to go through in a value. -/
def ofValue? : Value → Option Source
  | .array items => some (values items)
  | .string s => some (values (s.toList.map .char))
  | .range first last closed =>
    some (integers first.toInt (if closed then last.toInt + 1 else last.toInt))
  | _ => none

/-- The next item, and what is left behind it. -/
def next? : Source → Option (Value × Source)
  | values [] => none
  | values (v :: rest) => some (v, values rest)
  | integers i stop =>
    if i < stop then some (.integer (Int64.ofInt i), integers (i + 1) stop) else none

end Source

/-! ### Expressions and statements

The number bounds the depth of the recursion, and `calls` is the number of functions that are being
run.
-/

/-- How many functions may be run inside each other. -/
def callLimit : Nat := 64

section

variable {σ : Type} (host : Host σ) (functions : List Function)

open Run

mutual

/-- The value of an expression. -/
def evaluate : Nat → Nat → Expression → Run σ Value
  | 0, _, _ => fault .exhausted
  | n + 1, calls, e => do
    match e with
    | .literal v => return v
    | .template parts =>
      return .string (String.join ((← evaluateAll n calls parts).map (·.display)))
    | .array items => return .array (← evaluateAll n calls items)
    | .map names values =>
      let members := names.zip (← evaluateAll n calls values)
      return .map (members.foldl (fun all m => putMember m.1 m.2 all) [])
    | .named x => getPart x []
    | .negate e => lift (← evaluate n calls e).negate
    | .identity e => lift (← evaluate n calls e).identity
    | .complement e => lift (← evaluate n calls e).complement
    | .apply o left right =>
      let a ← evaluate n calls left
      let b ← evaluate n calls right
      lift (o.apply a b)
    | .both left right =>
      if ← truth (← evaluate n calls left) then
        return .bool (← truth (← evaluate n calls right))
      else return .bool false
    | .either left right =>
      if ← truth (← evaluate n calls left) then return .bool true
      else return .bool (← truth (← evaluate n calls right))
    | .index target position =>
      let v ← evaluate n calls target
      let key ← orFault (Key.ofValue? (← evaluate n calls position)) .noPart
      orFault (v.at? key) .noPart
    | .member target x => orFault ((← evaluate n calls target).at? (.member x)) .noPart
    | .call x arguments =>
      let values ← evaluateAll n calls arguments
      match functions.find? fun f => f.name == x && f.parameters.length == values.length with
      | some f => return (← callInside n calls f values none).1
      | none =>
        let (v, changed) ← callOutside host x values
        match changed, arguments with
        | some first, .named y :: _ => putPart y [] first
        | _, _ => pure ()
        return v
    | .method target x arguments => callMethod n calls target x arguments
    | .statement s => run n calls true s

/-- The values of expressions. -/
def evaluateAll : Nat → Nat → List Expression → Run σ (List Value)
  | 0, _, _ => fault .exhausted
  | _ + 1, _, [] => return []
  | n + 1, calls, e :: rest => do
    let v ← evaluate n calls e
    return v :: (← evaluateAll n calls rest)

/-- The keys that steps stand for. -/
def evaluateKeys : Nat → Nat → List Access → Run σ (List Key)
  | 0, _, _ => fault .exhausted
  | _ + 1, _, [] => return []
  | n + 1, calls, .member x :: rest => return .member x :: (← evaluateKeys n calls rest)
  | n + 1, calls, .index e :: rest => do
    let key ← orFault (Key.ofValue? (← evaluate n calls e)) .noPart
    return key :: (← evaluateKeys n calls rest)

/-- Calls a function of the script: the value that it gives, and what its subject becomes. -/
def callInside : Nat → Nat → Function → List Value → Option Value → Run σ (Value × Option Value)
  | 0, _, _, _, _ => fault .exhausted
  | n + 1, calls, f, arguments, subject => do
    if callLimit ≤ calls then fault .tooDeep
    else
      let subject : Scope := subject.toList.map fun v => { name := "this", value := v }
      let scope : Scope := (f.parameters.zip arguments).reverse.map fun p =>
        { name := p.1, value := p.2 }
      calling (scope ++ subject) (runAll n (calls + 1) true f.body)

/-- The value of a call in which the target stands in front. What becomes of the target is stored if
it is a part of a variable. -/
def callMethod : Nat → Nat → Expression → String → List Expression → Run σ Value
  | 0, _, _, _, _ => fault .exhausted
  | n + 1, calls, target, x, arguments => do
    let place ← match target.path? with
      | some p => pure (some (p.name, ← evaluateKeys n calls p.steps))
      | none => pure none
    let subject ← match place with
      | some (y, keys) => getPart y keys
      | none => evaluate n calls target
    let values ← evaluateAll n calls arguments
    let (v, changed) ←
      match functions.find? fun f => f.name == x && f.parameters.length == values.length with
      | some f => callInside n calls f values (some subject)
      | none => callOutside host x (subject :: values)
    match changed, place with
    | some w, some (y, keys) => putPart y keys w
    | _, _ => pure ()
    return v

/-- The value of statements; the flag tells whether it is wanted. -/
def runAll : Nat → Nat → Bool → List Statement → Run σ Value
  | 0, _, _, _ => fault .exhausted
  | _ + 1, _, _, [] => return .unit
  | n + 1, calls, wanted, [s] => if !wanted && s.isPure then return .unit else run n calls wanted s
  | n + 1, calls, wanted, s :: rest => do
    if !s.isPure then
      let _ ← run n calls wanted s
    runAll n calls wanted rest

/-- The value of a statement. -/
def run : Nat → Nat → Bool → Statement → Run σ Value
  | 0, _, _, _ => fault .exhausted
  | n + 1, calls, wanted, s => do
    match s with
    | .expression e => evaluate n calls e
    | .declare x isConstant value =>
      let v ← optional n calls value
      Run.declare ⟨x, v, isConstant⟩
      return .unit
    | .assign target o value =>
      let new ← evaluate n calls value
      let p ← orFault target.path? .noPart
      let keys ← evaluateKeys n calls p.steps
      match o with
      | none => putPart p.name keys new
      | some o => putPart p.name keys (← lift (combined o (← getPart p.name keys) new))
      return .unit
    | .block body => enclosed (runAll n calls wanted body)
    | .branch condition yes no =>
      if ← truth (← evaluate n calls condition) then enclosed (runAll n calls wanted yes)
      else enclosed (runAll n calls wanted no)
    | .whilst condition body => runWhilst n calls condition body
    | .forever body => runWhilst n calls (.literal (.bool true)) body
    | .each item counter source body =>
      let source ← orFault (Source.ofValue? (← evaluate n calls source)) .notIterable
      runEach n calls item counter body 0 source
    | .leave value => throw (.left (← optional n calls value))
    | .skip => throw .skipped
    | .give value => throw (.given (← optional n calls value))
    | .raise value => throw (.raised (← optional n calls value))
    | .attempt body name rescue =>
      attempt (enclosed (runAll n calls false body)) fun caught => enclosed do
        match name with
        | some x => Run.declare { name := x, value := caught }
        | none => pure ()
        runAll n calls false rescue

/-- The value of an expression that may be missing. -/
def optional : Nat → Nat → Option Expression → Run σ Value
  | 0, _, _ => fault .exhausted
  | _ + 1, _, none => return .unit
  | n + 1, calls, some e => evaluate n calls e

/-- Runs a body as long as a condition is true. -/
def runWhilst : Nat → Nat → Expression → List Statement → Run σ Value
  | 0, _, _, _ => fault .exhausted
  | n + 1, calls, condition, body => do
    if ← truth (← evaluate n calls condition) then
      match ← turn (enclosed (runAll n calls false body)) with
      | some v => return v
      | none => runWhilst n calls condition body
    else return .unit

/-- Runs a body for every item, and counts. -/
def runEach : Nat → Nat → String → Option String → List Statement → Nat → Source → Run σ Value
  | 0, _, _, _, _, _, _ => fault .exhausted
  | n + 1, calls, item, counter, body, count, source => do
    match source.next? with
    | none => return .unit
    | some (v, rest) =>
      let once : Run σ Value := enclosed do
        Run.declare { name := item, value := v }
        match counter with
        | some c => Run.declare { name := c, value := .integer (Int64.ofNat count) }
        | none => pure ()
        enclosed (runAll n calls false body)
      match ← turn once with
      | some v => return v
      | none => runEach n calls item counter body (count + 1) rest

end

end

/-! ### Scripts -/

/-- How many steps a script may take one inside the other, or one after another in a loop, besides
one for each of its tokens. -/
def stepLimit : Nat := 1000000000

namespace Program

variable {σ : Type}

/-- Runs a script: its value or the fault that stopped it, and the state behind it. -/
def run (p : Program) (host : Host σ) (m : Machine σ) : Except Fault Value × Machine σ :=
  let steps : Run σ Value := runAll host p.functions (stepLimit + p.length) 0 true p.body
  match steps m with
  | (.ok v, m) | (.error (.given v), m) => (.ok v, m)
  | (.error (.raised v), m) => (.error (.uncaught v.display), m)
  | (.error (.fault f), m) => (.error f, m)
  | (.error (.left _), m) | (.error .skipped, m) => (.ok .unit, m)

end Program

end VectorScene.Script
