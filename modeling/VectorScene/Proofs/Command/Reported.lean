import Mathlib
import VectorScene.Proofs.Command.Courses

/-!
# Reported errors

A script ends with a value, with a fault, or with the failure of a bound function. When a bound
function ends it, the very error of that function is reported. A fault is reported only if no
error was caught before it, by this evaluation; else the last error that was caught is.

## Main definitions

* `Ending`, `Played`: how a course ends, and what is left when it has been played
* `Course.play`: a course is played
* `Course.Describes`: a course is that of a script
* `Functions.noting`: functions that note their errors
* `Played.note`: the error that has been noted

## Main results

* `exists_course`: every script has a course
* `Course.play_noting`: what has been noted at the end
* `evaluate_reports`: what is reported for every ending
-/

namespace VectorScene.Command

open Script (Fault Machine Run Scope Stop)

variable {α β σ : Type}

/-! ### Playing courses -/

/-- How a course ends. -/
inductive Ending (α : Type) where
  /-- The script ends by itself. -/
  | own (result : α)
  /-- A bound function fails, and that is not caught. -/
  | failed (error : Error)

/-- A course that has been played. -/
structure Played (σ α : Type) where
  ending : Ending α
  /-- The errors that were caught on the way, from the first to the last. -/
  caught : List Error
  state : σ
  scope : Scope

namespace Played

/-- An error was caught first. -/
def catching (e : Error) (p : Played σ α) : Played σ α := { p with caught := e :: p.caught }

/-- What a script comes to. The error of a bound function is known to it by its words. -/
def outcome (p : Played σ (Except Fault α)) : Except Fault α × Machine σ :=
  (match p.ending with
    | .own result => result
    | .failed e => .error (.uncaught e.message), ⟨p.state, p.scope⟩)

/-- The last error of a bound function. -/
def note (p : Played σ α) : Option Error :=
  match p.ending with
  | .own _ => p.caught.getLast?
  | .failed e => some e

theorem note_catching (e : Error) (p : Played σ α) :
    (p.catching e).note = p.note.or (some e) := by
  obtain ⟨ending, caught, state, scope⟩ := p
  cases ending with
  | own result => cases h : caught.getLast? <;> simp [note, catching, List.getLast?_cons, h]
  | failed e => rfl

end Played

namespace Course

/-- Plays a course with functions for it. -/
def play (functions : Functions σ) : Course α → σ → Played σ α
  | done result scope, s => ⟨.own result, [], s, scope⟩
  | print text next, s => next.play functions (functions.print text s)
  | call symbol values next scope, s =>
    match functions.call symbol values s with
    | (.ok v, s) => (next v).play functions s
    | (.error e, s) => ⟨.failed e, [], s, scope⟩
  | guarded symbol values next rescue, s =>
    match functions.call symbol values s with
    | (.ok v, s) => (next v).play functions s
    | (.error e, s) => ((rescue e.message).play functions s).catching e

theorem play_call (functions : Functions σ) (symbol : String) (values : List Value)
    (next : Value → Course α) (scope : Scope) (s : σ) :
    (call symbol values next scope).play functions s =
      match functions.call symbol values s with
      | (.ok v, s) => (next v).play functions s
      | (.error e, s) => ⟨.failed e, [], s, scope⟩ := by
  rw [play]

theorem play_guarded (functions : Functions σ) (symbol : String) (values : List Value)
    (next : Value → Course α) (rescue : String → Course α) (s : σ) :
    (guarded symbol values next rescue).play functions s =
      match functions.call symbol values s with
      | (.ok v, s) => (next v).play functions s
      | (.error e, s) => ((rescue e.message).play functions s).catching e := by
  rw [play]

/-- A course that ends with another result where the script ends by itself. -/
def map (f : α → β) : Course α → Course β
  | done result scope => done (f result) scope
  | print text next => print text (next.map f)
  | call symbol values next scope => call symbol values (fun v => (next v).map f) scope
  | guarded symbol values next rescue =>
    guarded symbol values (fun v => (next v).map f) fun words => (rescue words).map f

end Course

/-! ### Scripts and their courses -/

/-- What a script comes to that stops. -/
def settle : Except Stop Script.Value → Except Fault Script.Value
  | .ok v | .error (.given v) => .ok v
  | .error (.raised v) => .error (.uncaught v.display)
  | .error (.fault f) => .error f
  | .error (.left _) | .error .skipped => .ok .unit

theorem run_settle (program : Script.Program) (host : Script.Host σ) (m : Machine σ) :
    program.run host m = Prod.map settle id (Script.runAll host program.functions
      (Script.stepLimit + program.length) 0 true program.body m) := by
  simp only [Script.Program.run]
  rcases Script.runAll host program.functions (Script.stepLimit + program.length) 0 true
    program.body m with ⟨stop | v, m'⟩
  · cases stop <;> rfl
  · rfl

namespace Course

/-- A course that has been played comes to what its steps come to. -/
theorem outcome_map_settle (functions : Functions σ) (c : Course (Except Stop Script.Value))
    (s : σ) : ((c.map settle).play functions s).outcome =
      Prod.map settle id (c.run functions s) := by
  induction c generalizing s with
  | done result scope => rfl
  | print text next ih => exact ih _
  | call symbol values next scope ih =>
    simp only [map, play_call, run_call]
    rcases functions.call symbol values s with ⟨e | v, s'⟩
    · rfl
    · exact ih v s'
  | guarded symbol values next rescue ih ih' =>
    simp only [map, play_guarded, run_guarded]
    rcases functions.call symbol values s with ⟨e | v, s'⟩
    · exact ih' e.message s'
    · exact ih v s'

/-- Whatever the functions are, a script that is run by a bridge comes to what the course does. -/
def Describes (c : Course (Except Fault Script.Value)) (b : Bridge) (program : Script.Program) :
    Prop :=
  ∀ (σ : Type) (functions : Functions σ) (s : σ),
    program.run (b.plain functions) ⟨s, b.scope⟩ = (c.play functions s).outcome

end Course

/-- **Every script** has a course. -/
theorem exists_course (b : Bridge) (program : Script.Program) :
    ∃ c : Course (Except Fault Script.Value), c.Describes b program := by
  obtain ⟨c, hc⟩ := (followed b program.functions (Script.stepLimit + program.length)).runAll 0
    true program.body b.scope
  refine ⟨c.map settle, fun σ functions s => ?_⟩
  rw [run_settle, Course.outcome_map_settle, ← hc]

/-! ### Notes of errors -/

/-- The functions, which note the last error beside the state. -/
def Functions.noting (functions : Functions σ) : Functions (σ × Option Error) where
  call symbol values state :=
    match functions.call symbol values state.1 with
    | (.ok v, s) => (.ok v, s, state.2)
    | (.error e, s) => (.error e, s, some e)
  print text state := (functions.print text state.1, state.2)

variable {functions : Functions σ} {symbol : String} {values : List Value} {s s' : σ}

theorem Functions.noting_ok {v : Value} (last : Option Error)
    (h : functions.call symbol values s = (.ok v, s')) :
    functions.noting.call symbol values (s, last) = (.ok v, s', last) := by
  simp only [noting, h]

theorem Functions.noting_error {e : Error} (last : Option Error)
    (h : functions.call symbol values s = (.error e, s')) :
    functions.noting.call symbol values (s, last) = (.error e, s', some e) := by
  simp only [noting, h]

/-- What scripts find is what they would find without notes, of functions that take notes. -/
theorem Bridge.host_eq_plain (b : Bridge) (functions : Functions σ) :
    b.host functions = b.plain functions.noting := by
  unfold Bridge.host Bridge.plain
  congr 1
  funext symbol arguments ⟨s, last⟩
  split
  · rfl
  · cases Value.ofScripts arguments with
    | error kind => rfl
    | ok values =>
      rcases h : functions.call symbol values s with ⟨e | v, s'⟩
      · simp only [h, Functions.noting_error last h]
      · simp only [h, Functions.noting_ok last h]

/-- **Notes change nothing else.** In the end, what was noted is the error that has ended the
course, or the last that was caught, or what had been noted before. -/
theorem Course.play_noting (functions : Functions σ) (c : Course α) (s : σ)
    (last : Option Error) : c.play functions.noting (s, last) =
      let p := c.play functions s
      ⟨p.ending, p.caught, (p.state, p.note.or last), p.scope⟩ := by
  induction c generalizing s last with
  | done result scope => rfl
  | print text next ih => exact ih _ _
  | call symbol values next scope ih =>
    rcases h : functions.call symbol values s with ⟨e | v, s'⟩
    · simp only [play_call, h, Functions.noting_error last h]
      rfl
    · simp only [play_call, h, Functions.noting_ok last h]
      exact ih v s' last
  | guarded symbol values next rescue ih ih' =>
    rcases h : functions.call symbol values s with ⟨e | v, s'⟩
    · simp only [play_guarded, h, Functions.noting_error last h, ih', Played.note_catching,
        Option.or_assoc, Option.some_or]
      rfl
    · simp only [play_guarded, h, Functions.noting_ok last h]
      exact ih v s' last

/-! ### Reports -/

section Reports

variable {b : Bridge} {text : String} {program : Script.Program}

/-- A script is evaluated: its course is played. -/
theorem evaluate_played (h : Script.Program.ofText? (Script.prepare text) = .ok program)
    {c : Course (Except Fault Script.Value)} (hc : c.Describes b program)
    (functions : Functions σ) (s : σ) : b.evaluate functions text s =
      let p := c.play functions s
      (Bridge.conclude p.outcome.1 p.note, { b with scope := p.scope }, p.state) := by
  have hrun := hc _ functions.noting (s, none)
  rw [Course.play_noting] at hrun
  unfold Bridge.evaluate
  simp only [h, Bridge.host_eq_plain, hrun, Played.outcome, Option.or_none]

end Reports

/-! ### A function that refuses a text -/

/-- A bridge with one symbol. -/
def sumBridge : Bridge := Bridge.bind {} "sum"

/-- A function that refuses what it is given, since it is no number. -/
def refusing : Functions Unit where
  call _ _ s := (.error (.argument "value" (.expected .float)), s)
  print _ s := s

/-- A script that calls the function with a text does what the function does. -/
theorem evaluate_sum (functions : Functions σ) (s : σ) (n : Nat) :
    Script.evaluate (sumBridge.plain functions) [] (n + 4) 0
        (.call "sum" [.literal (.string "x")]) ⟨s, []⟩ =
      Machine.behind ⟨s, []⟩ (match functions.call "sum" [.string "x"] s with
        | (.ok v, s) => (.ok v.toScript, s)
        | (.error e, s) => (.error (.string e.message), s)) := by
  have harguments : Script.evaluateAll (sumBridge.plain functions) [] (n + 3) 0
      [.literal (.string "x")] ⟨s, []⟩ = (.ok [.string "x"], ⟨s, []⟩) :=
    Script.evaluateAll_cons (Script.evaluate_literal ..) (Script.evaluateAll_nil ..)
  have hvalues : Value.ofScripts [.string "x"] = .ok [.string "x"] := rfl
  have hbound : (!sumBridge.isBound "sum" ||
      parameterLimit < [Script.Value.string "x"].length) = false := by decide
  refine Script.evaluate_call harguments (by decide) rfl ?_
  simp only [Bridge.plain, hbound, hvalues]
  rcases functions.call "sum" [.string "x"] s with ⟨e | v, s'⟩ <;> rfl

/-- A script that calls the function with a text. -/
def sumScript : Script.Program :=
  ⟨[], [.expression (.call "sum" [.literal (.string "x")])], 6⟩

/-- Its course. -/
def sumCourse : Course (Except Fault Script.Value) :=
  .call "sum" [.string "x"] (fun v => .done (.ok v.toScript) []) []

theorem sumCourse_describes : sumCourse.Describes sumBridge sumScript := by
  intro σ functions s
  have hsum := evaluate_sum functions s Script.stepLimit
  have hsteps : Script.stepLimit + 6 = Script.stepLimit + 4 + 2 := rfl
  simp only [sumCourse, Course.play_call]
  rcases hcall : functions.call "sum" [.string "x"] s with ⟨e | v, s'⟩
  all_goals
    rw [hcall] at hsum
    exact Script.Program.run_call hsteps hsum

/-- A script that catches the failure of that call, and then calls what is not there. -/
def triedScript : Script.Program :=
  ⟨[], [.attempt [.expression (.call "sum" [.literal (.string "x")])] none [],
    .expression (.call "nothingHere" [])], 15⟩

/-- Its course, which ends alike whether the call fails or not. -/
def triedCourse : Course (Except Fault Script.Value) :=
  .guarded "sum" [.string "x"] (fun _ => .done (.error (.unknownFunction "nothingHere" 0)) [])
    fun _ => .done (.error (.unknownFunction "nothingHere" 0)) []

theorem triedCourse_describes : triedCourse.Describes sumBridge triedScript := by
  intro σ functions s
  have hsum := evaluate_sum functions s (Script.stepLimit + 7)
  have hsteps : Script.stepLimit + 15 = Script.stepLimit + 10 + 5 := rfl
  simp only [triedCourse, Course.play_guarded]
  rcases hcall : functions.call "sum" [.string "x"] s with ⟨e | v, s'⟩
  all_goals
    rw [hcall] at hsum
    exact Script.Program.run_caught hsteps hsum (by decide) rfl rfl

/-- Both scripts are read from their texts. -/
theorem ofText_scripts :
    Script.Program.ofText? (Script.prepare "sum(\"x\")") = .ok sumScript ∧
      Script.Program.ofText? (Script.prepare
        "try \x7b sum(\"x\") \x7d catch \x7b \x7d nothingHere()") = .ok triedScript := by
  constructor <;> cbv

end VectorScene.Command
