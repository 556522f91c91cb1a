import Mathlib.Tactic.Choose
import VectorScene.Command.Bridge
import VectorScene.Proofs.Script.Running

/-!
# Courses of scripts

What a script does depends on the bound functions only by what they answer. So a script has one
course, whatever the functions are: a tree that says which function is called next, how the script
goes on with each answer, and where it ends. The tree also says of each call whether its failure
ends the script or is caught by it.

## Main definitions

* `Bridge.plain`: what scripts find if no error is kept
* `Course`: the course of a script
* `Course.run`: a course with functions for it
* `Course.pass`, `Course.handle`: courses that go on, and courses whose failures are caught
* `Follows`: steps that have a course

## Main results

* `Follows.bind`, `Follows.enclosed`, `Follows.attempt`: the steps of scripts
* `follows_callOutside`: a call of a bound function
* `followed`: every part of a script has a course
-/

namespace VectorScene.Command

open Script (Fault Machine Run Scope Stop)

variable {α β : Type}

/-- What scripts find if no error is kept: the bound functions, whose failures raise their words. -/
def Bridge.plain {σ : Type} (b : Bridge) (functions : Functions σ) : Script.Host σ where
  call symbol arguments state :=
    if !b.isBound symbol || parameterLimit < arguments.length then none
    else match Value.ofScripts arguments with
      | .error kind => some (.error (.string (refusal kind)), state)
      | .ok values =>
        match functions.call symbol values state with
        | (.ok v, s) => some (.ok v.toScript, s)
        | (.error e, s) => some (.error (.string e.message), s)
  print := functions.print

/-! ### Courses -/

/-- The course of a script, or of a part of it, which ends with a result. -/
inductive Course (α : Type) where
  /-- It ends by itself, and leaves variables. -/
  | done (result : α) (scope : Scope)
  | print (text : String) (next : Course α)
  /-- A bound function is called. If it fails, this is the end, and leaves variables. -/
  | call (symbol : String) (values : List Value) (next : Value → Course α) (scope : Scope)
  /-- A bound function is called. If it fails, the failure is caught, known by its words. -/
  | guarded (symbol : String) (values : List Value) (next : Value → Course α)
    (rescue : String → Course α)

namespace Course

/-- What is raised by a bound function that fails. -/
def raised (words : String) : Except Stop α := .error (.raised (.string words))

variable {σ : Type} (functions : Functions σ)

/-- A course with functions for it. -/
def run : Course (Except Stop α) → σ → Except Stop α × Machine σ
  | done result scope, s => (result, ⟨s, scope⟩)
  | print text next, s => next.run (functions.print text s)
  | call symbol values next scope, s =>
    match functions.call symbol values s with
    | (.ok v, s) => (next v).run s
    | (.error e, s) => (raised e.message, ⟨s, scope⟩)
  | guarded symbol values next rescue, s =>
    match functions.call symbol values s with
    | (.ok v, s) => (next v).run s
    | (.error e, s) => (rescue e.message).run s

theorem run_done (result : Except Stop α) (scope : Scope) (s : σ) :
    (done result scope).run functions s = (result, ⟨s, scope⟩) := rfl

theorem run_call (symbol : String) (values : List Value) (next : Value → Course (Except Stop α))
    (scope : Scope) (s : σ) : (call symbol values next scope).run functions s =
      match functions.call symbol values s with
      | (.ok v, s) => (next v).run functions s
      | (.error e, s) => (raised e.message, ⟨s, scope⟩) := by
  rw [run]

theorem run_guarded (symbol : String) (values : List Value)
    (next : Value → Course (Except Stop α)) (rescue : String → Course (Except Stop α)) (s : σ) :
    (guarded symbol values next rescue).run functions s =
      match functions.call symbol values s with
      | (.ok v, s) => (next v).run functions s
      | (.error e, s) => (rescue e.message).run functions s := by
  rw [run]

/-- A course that goes on at its own ends. Where a failure ends it, only the variables change. -/
def pass (leave : Scope → Scope) (next : Except Stop α → Scope → Course (Except Stop β)) :
    Course (Except Stop α) → Course (Except Stop β)
  | done result scope => next result scope
  | print text rest => .print text (rest.pass leave next)
  | call symbol values rest scope =>
    .call symbol values (fun v => (rest v).pass leave next) (leave scope)
  | guarded symbol values rest rescue =>
    .guarded symbol values (fun v => (rest v).pass leave next)
      fun words => (rescue words).pass leave next

/-- A course that goes on at all its ends, also where a failure ends it. -/
def handle (next : Except Stop α → Scope → Course (Except Stop β)) :
    Course (Except Stop α) → Course (Except Stop β)
  | done result scope => next result scope
  | print text rest => .print text (rest.handle next)
  | call symbol values rest scope =>
    .guarded symbol values (fun v => (rest v).handle next) fun words => next (raised words) scope
  | guarded symbol values rest rescue =>
    .guarded symbol values (fun v => (rest v).handle next) fun words => (rescue words).handle next

variable {functions}

theorem run_pass {leave : Scope → Scope}
    {next : Except Stop α → Scope → Course (Except Stop β)}
    (hraised : ∀ words scope, next (raised words) scope = .done (raised words) (leave scope))
    (c : Course (Except Stop α)) (s : σ) : (c.pass leave next).run functions s =
      (next (c.run functions s).1 (c.run functions s).2.scope).run functions
        (c.run functions s).2.host := by
  induction c generalizing s with
  | done result scope => rfl
  | print text rest ih => exact ih _
  | call symbol values rest scope ih =>
    simp only [pass, run_call]
    rcases functions.call symbol values s with ⟨e | v, s'⟩
    · simp only [hraised, run_done]
    · exact ih v s'
  | guarded symbol values rest rescue ih ih' =>
    simp only [pass, run_guarded]
    rcases functions.call symbol values s with ⟨e | v, s'⟩
    · exact ih' e.message s'
    · exact ih v s'

theorem run_handle (next : Except Stop α → Scope → Course (Except Stop β))
    (c : Course (Except Stop α)) (s : σ) : (c.handle next).run functions s =
      (next (c.run functions s).1 (c.run functions s).2.scope).run functions
        (c.run functions s).2.host := by
  induction c generalizing s with
  | done result scope => rfl
  | print text rest ih => exact ih _
  | call symbol values rest scope ih =>
    simp only [handle, run_call, run_guarded]
    rcases functions.call symbol values s with ⟨e | v, s'⟩
    · rfl
    · exact ih v s'
  | guarded symbol values rest rescue ih ih' =>
    simp only [handle, run_guarded]
    rcases functions.call symbol values s with ⟨e | v, s'⟩
    · exact ih' e.message s'
    · exact ih v s'

end Course

/-! ### Steps that have a course -/

/-- Steps for any functions that are the steps of a course, given the variables before them. -/
def Follows (x : (σ : Type) → Functions σ → Run σ α) : Prop :=
  ∀ scope, ∃ c : Course (Except Stop α), ∀ σ (functions : Functions σ) (s : σ),
    x σ functions ⟨s, scope⟩ = c.run functions s

section Steps

variable {x : (σ : Type) → Functions σ → Run σ α}

/-- Steps that neither call nor print. -/
theorem follows_local (result : Scope → Except Stop α) (leave : Scope → Scope)
    (h : ∀ σ functions (m : Machine σ),
      x σ functions m = (result m.scope, { m with scope := leave m.scope })) : Follows x := by
  intro scope
  exact ⟨.done (result scope) (leave scope), fun σ functions s => h σ functions _⟩

theorem follows_pure (a : α) : Follows fun _ _ => pure a :=
  follows_local (fun _ => .ok a) id fun _ _ _ => rfl

theorem follows_throw (stop : Stop) : Follows (α := α) fun _ _ => throw stop :=
  follows_local (fun _ => .error stop) id fun _ _ _ => rfl

theorem follows_lift (result : Except Fault α) : Follows fun _ _ => Run.lift result := by
  cases result with
  | ok a => exact follows_pure a
  | error f => exact follows_throw (.fault f)

theorem follows_orFault (a : Option α) (f : Fault) : Follows fun _ _ => Run.orFault a f := by
  cases a with
  | some a => exact follows_pure a
  | none => exact follows_throw (.fault f)

theorem follows_truth (v : Script.Value) : Follows fun _ _ => Run.truth v := by
  cases v with
  | bool b => exact follows_pure b
  | _ => exact follows_throw (.fault .notTruth)

/-- Steps that go on where other steps have ended by themselves. Where a failure ended those, it
also ends these, and only the variables change. -/
theorem Follows.pass {y : (σ : Type) → Functions σ → Run σ β} (hx : Follows x)
    (enter : Scope → Scope) (leave : Scope → Scope → Scope)
    (next : Scope → Except Stop α → Scope → Course (Except Stop β))
    (hraised : ∀ outer words inner,
      next outer (Course.raised words) inner = .done (Course.raised words) (leave outer inner))
    (h : ∀ σ functions (s : σ) outer, y σ functions ⟨s, outer⟩ =
      (next outer (x σ functions ⟨s, enter outer⟩).1 (x σ functions ⟨s, enter outer⟩).2.scope).run
        functions (x σ functions ⟨s, enter outer⟩).2.host) : Follows y := by
  intro outer
  obtain ⟨c, hc⟩ := hx (enter outer)
  refine ⟨c.pass (leave outer) (next outer), fun σ functions s => ?_⟩
  rw [h, hc, Course.run_pass (hraised outer)]

theorem Follows.bind {f : α → (σ : Type) → Functions σ → Run σ β} (hx : Follows x)
    (hf : ∀ a, Follows (f a)) : Follows fun σ functions => x σ functions >>= fun a =>
      f a σ functions := by
  choose d hd using hf
  refine hx.pass id (fun _ inner => inner) (fun _ result inner => match result with
    | .ok a => d a inner
    | .error stop => .done (.error stop) inner) (fun _ _ _ => rfl) fun σ functions s outer => ?_
  rcases hrun : x σ functions ⟨s, outer⟩ with ⟨stop | a, m⟩
  · simp only [id_eq, hrun]
    exact Run.bind_error hrun
  · simp only [id_eq, hrun]
    exact (Run.bind_ok hrun).trans (hd a m.scope σ functions m.host)

/-- What becomes of the result of a loop's body. -/
def turned : Except Stop Script.Value → Except Stop (Option Script.Value)
  | .ok _ | .error .skipped => .ok none
  | .error (.left v) => .ok (some v)
  | .error stop => .error stop

/-- What becomes of the result of a function, which leaves variables of its own. -/
def answered (own : Scope) : Except Stop Script.Value →
    Except Stop (Script.Value × Option Script.Value)
  | .ok v | .error (.given v) => .ok (v, (own.find? "this").map (·.value))
  | .error stop => .error stop

/-- What becomes of the result of what is done about a failure. -/
def dealtWith (failure : Stop) : Except Stop Script.Value → Except Stop Script.Value
  | .ok _ => .ok .unit
  | .error (.raised .unit) => .error failure
  | .error stop => .error stop

/-- How it goes on behind what may fail, if something is done about a failure. -/
def afterTry (rescue : Stop → Script.Value → Scope → Course (Except Stop Script.Value)) :
    Except Stop Script.Value → Scope → Course (Except Stop Script.Value)
  | .ok _, scope => .done (.ok .unit) scope
  | .error (.raised v), scope => rescue (.raised v) v scope
  | .error (.fault f), scope =>
    if f.isCatchable then rescue (.fault f) (.map [("message", .string f.message)]) scope
    else .done (.error (.fault f)) scope
  | .error stop, scope => .done (.error stop) scope

/-- A block forgets the variables that were declared in it, also where a failure ends it. -/
theorem Follows.enclosed (hx : Follows x) :
    Follows fun σ functions => Run.enclosed (x σ functions) :=
  hx.pass id (fun outer inner => inner.drop (inner.length - outer.length))
    (fun outer result inner => .done result (inner.drop (inner.length - outer.length)))
    (fun _ _ _ => rfl) fun _ _ _ _ => rfl

theorem Follows.turn {x : (σ : Type) → Functions σ → Run σ Script.Value} (hx : Follows x) :
    Follows fun σ functions => Run.turn (x σ functions) := by
  refine hx.pass id (fun _ inner => inner) (fun _ result inner => .done (turned result) inner)
    (fun _ _ _ => rfl) fun σ functions s outer => ?_
  simp only [Run.turn, Course.run_done, id_eq]
  rcases x σ functions ⟨s, outer⟩ with ⟨stop | v, m⟩
  · cases stop <;> rfl
  · rfl

/-- A function has variables of its own. -/
theorem Follows.calling {x : (σ : Type) → Functions σ → Run σ Script.Value} (hx : Follows x)
    (own : Scope) : Follows fun σ functions => Run.calling own (x σ functions) := by
  refine hx.pass (fun _ => own) (fun outer _ => outer)
    (fun outer result inner => .done (answered inner result) outer)
    (fun _ _ _ => rfl) fun σ functions s outer => ?_
  simp only [Run.calling, Course.run_done]
  rcases x σ functions ⟨s, own⟩ with ⟨stop | v, m⟩
  · cases stop <;> rfl
  · rfl

/-- A failure that is being dealt with is raised once more by the script itself. -/
theorem Follows.again {x : (σ : Type) → Functions σ → Run σ Script.Value} (hx : Follows x)
    (failure : Stop) : Follows fun σ functions => Run.again failure (x σ functions) := by
  refine hx.pass id (fun _ inner => inner)
    (fun _ result inner => .done (dealtWith failure result) inner)
    (fun _ _ _ => rfl) fun σ functions s outer => ?_
  simp only [Run.again, Course.run_done, id_eq]
  rcases x σ functions ⟨s, outer⟩ with ⟨stop | v, m⟩
  · cases stop with
    | raised v => cases v <;> rfl
    | _ => rfl
  · rfl

/-- **Failures are caught**, those of bound functions included. -/
theorem Follows.attempt {x : (σ : Type) → Functions σ → Run σ Script.Value}
    {rescue : Script.Value → (σ : Type) → Functions σ → Run σ Script.Value} (hx : Follows x)
    (hrescue : ∀ v, Follows (rescue v)) :
    Follows fun σ functions => Run.attempt (x σ functions) fun v => rescue v σ functions := by
  have hagain := fun failure v => (hrescue v).again failure
  choose d hd using hagain
  intro outer
  obtain ⟨c, hc⟩ := hx outer
  refine ⟨c.handle (afterTry d), fun σ functions s => ?_⟩
  rw [Course.run_handle, ← hc]
  simp only [Run.attempt]
  rcases x σ functions ⟨s, outer⟩ with ⟨stop | v, m⟩
  · cases stop with
    | raised v => exact hd _ v m.scope σ functions m.host
    | fault f =>
      simp only [afterTry]
      split
      · exact hd _ _ m.scope σ functions m.host
      · rfl
    | _ => rfl
  · rfl

theorem follows_getPart (name : String) (keys : List Script.Key) :
    Follows fun _ _ => Run.getPart name keys := by
  refine follows_local (fun scope => (scope.get name keys).mapError .fault) id fun _ _ m => ?_
  have hrun : Run.getPart name keys m = Run.lift (m.scope.get name keys) m := rfl
  rw [hrun]
  cases m.scope.get name keys <;> rfl

theorem follows_putPart (name : String) (keys : List Script.Key) (v : Script.Value) :
    Follows fun _ _ => Run.putPart name keys v := by
  refine follows_local (fun scope => (scope.put name keys v).mapError .fault |>.map fun _ => ())
    (fun scope => (scope.put name keys v).toOption.getD scope) fun _ _ m => ?_
  have hrun : Run.putPart name keys v m = (Run.lift (m.scope.put name keys v) >>= fun scope =>
      modify fun m => { m with scope }) m := rfl
  rw [hrun]
  cases m.scope.put name keys v <;> rfl

theorem follows_declare (x : Script.Variable) : Follows fun _ _ => Run.declare x :=
  follows_local (fun _ => .ok ()) (x :: ·) fun _ _ _ => rfl

/-- **A call** of a function that is not part of the script. The failure of a bound function is not
caught by the call itself; words of the bridge are raised by the script. -/
theorem follows_callOutside (b : Bridge) (name : String) (arguments : List Script.Value) :
    Follows fun _ functions => Script.callOutside (b.plain functions) name arguments := by
  intro scope
  by_cases hprinter : Script.isPrinter name arguments = true
  · refine ⟨.print (String.join (arguments.map (·.display))) (.done (.ok (.unit, none)) scope),
      fun σ functions s => ?_⟩
    simp only [Script.callOutside, if_pos hprinter]
    rfl
  by_cases htracer : Script.isTracer name arguments = true
  · refine ⟨.done (.ok (.unit, none)) scope, fun σ functions s => ?_⟩
    simp only [Script.callOutside, if_neg hprinter, if_pos htracer]
    rfl
  cases hcommon : Script.commonFunction? name arguments with
  | some result =>
    refine ⟨.done (.ok result) scope, fun σ functions s => ?_⟩
    simp only [Script.callOutside, if_neg hprinter, if_neg htracer, hcommon]
    rfl
  | none =>
    by_cases hunknown : (!b.isBound name || parameterLimit < arguments.length) = true
    · refine ⟨.done (.error (.fault (.unknownFunction name arguments.length))) scope,
        fun σ functions s => ?_⟩
      simp only [Script.callOutside, if_neg hprinter, if_neg htracer, hcommon, Bridge.plain,
        if_pos hunknown]
      rfl
    cases hvalues : Value.ofScripts arguments with
    | error kind =>
      refine ⟨.done (Course.raised (refusal kind)) scope, fun σ functions s => ?_⟩
      simp only [Script.callOutside, if_neg hprinter, if_neg htracer, hcommon, Bridge.plain,
        if_neg hunknown, hvalues]
      rfl
    | ok values =>
      refine ⟨.call name values (fun v => .done (.ok (v.toScript, none)) scope) scope,
        fun σ functions s => ?_⟩
      simp only [Script.callOutside, if_neg hprinter, if_neg htracer, hcommon, Bridge.plain,
        if_neg hunknown, hvalues, Course.run_call]
      rcases functions.call name values s with ⟨e | v, s'⟩ <;> rfl

end Steps

/-! ### Scripts -/

/-- Every part of a script has a course, with a bound on the depth of its recursion. -/
structure Followed (b : Bridge) (fs : List Script.Function) (n : Nat) : Prop where
  evaluate (calls : Nat) (e : Script.Expression) :
    Follows fun _ functions => Script.evaluate (b.plain functions) fs n calls e
  evaluateAll (calls : Nat) (es : List Script.Expression) :
    Follows fun _ functions => Script.evaluateAll (b.plain functions) fs n calls es
  evaluateKeys (calls : Nat) (steps : List Script.Access) :
    Follows fun _ functions => Script.evaluateKeys (b.plain functions) fs n calls steps
  callInside (calls : Nat) (f : Script.Function) (arguments : List Script.Value)
    (subject : Option Script.Value) : Follows fun _ functions =>
      Script.callInside (b.plain functions) fs n calls f arguments subject
  callMethod (calls : Nat) (target : Script.Expression) (name : String)
    (arguments : List Script.Expression) : Follows fun _ functions =>
      Script.callMethod (b.plain functions) fs n calls target name arguments
  runAll (calls : Nat) (wanted : Bool) (body : List Script.Statement) :
    Follows fun _ functions => Script.runAll (b.plain functions) fs n calls wanted body
  run (calls : Nat) (wanted : Bool) (statement : Script.Statement) :
    Follows fun _ functions => Script.run (b.plain functions) fs n calls wanted statement
  optional (calls : Nat) (e : Option Script.Expression) :
    Follows fun _ functions => Script.optional (b.plain functions) fs n calls e
  runWhilst (calls : Nat) (condition : Script.Expression) (body : List Script.Statement) :
    Follows fun _ functions => Script.runWhilst (b.plain functions) fs n calls condition body
  runEach (calls : Nat) (item : String) (counter : Option String) (body : List Script.Statement)
    (count : Nat) (source : Script.Source) : Follows fun _ functions =>
      Script.runEach (b.plain functions) fs n calls item counter body count source

section Parts

variable {b : Bridge} {fs : List Script.Function} {n : Nat}

theorem followed_zero : Followed b fs 0 := by
  constructor <;> intros
  all_goals
    simp only [Script.evaluate.eq_def, Script.evaluateAll.eq_def, Script.evaluateKeys.eq_def,
      Script.callInside.eq_def, Script.callMethod.eq_def, Script.runAll.eq_def, Script.run.eq_def,
      Script.optional.eq_def, Script.runWhilst.eq_def, Script.runEach.eq_def]
    exact follows_throw (.fault .exhausted)

variable (ih : Followed b fs n)

include ih

theorem Followed.evaluate_succ (calls : Nat) (e : Script.Expression) :
    Follows fun _ functions => Script.evaluate (b.plain functions) fs (n + 1) calls e := by
  cases e
  all_goals unfold Script.evaluate
  case literal v => exact follows_pure v
  case template parts => exact (ih.evaluateAll calls parts).bind fun _ => follows_pure _
  case array items => exact (ih.evaluateAll calls items).bind fun _ => follows_pure _
  case map names values => exact (ih.evaluateAll calls values).bind fun _ => follows_pure _
  case named x => exact follows_getPart x []
  case negate e => exact (ih.evaluate calls e).bind fun _ => follows_lift _
  case identity e => exact (ih.evaluate calls e).bind fun _ => follows_lift _
  case complement e => exact (ih.evaluate calls e).bind fun _ => follows_lift _
  case apply o left right =>
    exact (ih.evaluate calls left).bind fun _ => (ih.evaluate calls right).bind fun _ =>
      follows_lift _
  case both left right =>
    refine (ih.evaluate calls left).bind fun a => (follows_truth a).bind fun first => ?_
    cases first with
    | true =>
      exact (ih.evaluate calls right).bind fun v => (follows_truth v).bind fun _ => follows_pure _
    | false => exact follows_pure _
  case either left right =>
    refine (ih.evaluate calls left).bind fun a => (follows_truth a).bind fun first => ?_
    cases first with
    | true => exact follows_pure _
    | false =>
      exact (ih.evaluate calls right).bind fun v => (follows_truth v).bind fun _ => follows_pure _
  case index target position =>
    refine (ih.evaluate calls target).bind fun v => (ih.evaluate calls position).bind fun p => ?_
    exact (follows_orFault _ _).bind fun key => follows_orFault _ _
  case member target x => exact (ih.evaluate calls target).bind fun v => follows_orFault _ _
  case call x arguments =>
    refine (ih.evaluateAll calls arguments).bind fun values => ?_
    -- a function of the script comes before those outside
    cases fs.find? fun f => f.name == x && f.parameters.length == values.length with
    | some f => exact (ih.callInside calls f values none).bind fun _ => follows_pure _
    | none =>
      refine (follows_callOutside b x values).bind fun result => ?_
      obtain ⟨v, changed⟩ := result
      cases changed with
      | none => exact follows_pure v
      | some first =>
        cases arguments with
        | nil => exact follows_pure v
        | cons e rest =>
          cases e with
          | named y => exact (follows_putPart y [] first).bind fun _ => follows_pure v
          | _ => exact follows_pure v
  case method target x arguments => exact ih.callMethod calls target x arguments
  case statement s => exact ih.run calls true s

theorem Followed.evaluateAll_succ (calls : Nat) (es : List Script.Expression) :
    Follows fun _ functions => Script.evaluateAll (b.plain functions) fs (n + 1) calls es := by
  cases es
  all_goals unfold Script.evaluateAll
  case nil => exact follows_pure []
  case cons e rest =>
    exact (ih.evaluate calls e).bind fun v => (ih.evaluateAll calls rest).bind fun _ =>
      follows_pure _

theorem Followed.evaluateKeys_succ (calls : Nat) (steps : List Script.Access) :
    Follows fun _ functions => Script.evaluateKeys (b.plain functions) fs (n + 1) calls steps := by
  rcases steps with - | ⟨e | x, rest⟩
  all_goals unfold Script.evaluateKeys
  · exact follows_pure []
  · refine (ih.evaluate calls e).bind fun v => (follows_orFault _ _).bind fun key => ?_
    exact (ih.evaluateKeys calls rest).bind fun _ => follows_pure _
  · exact (ih.evaluateKeys calls rest).bind fun _ => follows_pure _

theorem Followed.callInside_succ (calls : Nat) (f : Script.Function)
    (arguments : List Script.Value) (subject : Option Script.Value) : Follows fun _ functions =>
      Script.callInside (b.plain functions) fs (n + 1) calls f arguments subject := by
  unfold Script.callInside
  split
  · exact follows_throw (.fault .tooDeep)
  · exact (ih.runAll (calls + 1) true f.body).calling _

omit ih in
/-- What becomes of the subject of a call is stored if there is a place for it. -/
theorem follows_stored (result : Script.Value × Option Script.Value)
    (place : Option (String × List Script.Key)) : Follows fun σ _ =>
      (match result.2, place with
        | some w, some (y, keys) => do
          Run.putPart y keys w
          return result.1
        | _, _ => return result.1 : Run σ Script.Value) := by
  obtain ⟨v, changed⟩ := result
  cases changed with
  | none => exact follows_pure v
  | some w =>
    cases place with
    | none => exact follows_pure v
    | some place => exact (follows_putPart _ _ w).bind fun _ => follows_pure v

/-- A call in which a subject stands in front, once it is known where the subject is from. -/
theorem Followed.callOn (calls : Nat) (name : String) (arguments : List Script.Expression)
    (place : Option (String × List Script.Key))
    {x : (σ : Type) → Functions σ → Run σ Script.Value} (hx : Follows x) :
    Follows fun σ functions => (do
      let subject ← x σ functions
      let values ← Script.evaluateAll (b.plain functions) fs n calls arguments
      let (v, changed) ←
        match fs.find? fun f => f.name == name && f.parameters.length == values.length with
        | some f => Script.callInside (b.plain functions) fs n calls f values (some subject)
        | none => Script.callOutside (b.plain functions) name (subject :: values)
      match changed, place with
      | some w, some (y, keys) => Run.putPart y keys w
      | _, _ => pure ()
      return v) := by
  refine hx.bind fun subject => (ih.evaluateAll calls arguments).bind fun values => ?_
  cases fs.find? fun f => f.name == name && f.parameters.length == values.length with
  | some f =>
    exact (ih.callInside calls f values (some subject)).bind fun result =>
      follows_stored result place
  | none =>
    exact (follows_callOutside b name (subject :: values)).bind fun result =>
      follows_stored result place

theorem Followed.callMethod_succ (calls : Nat) (target : Script.Expression) (name : String)
    (arguments : List Script.Expression) : Follows fun _ functions =>
      Script.callMethod (b.plain functions) fs (n + 1) calls target name arguments := by
  unfold Script.callMethod
  cases target.path? with
  | none =>
    refine (follows_pure none).bind fun place => ?_
    cases place with
    | none => exact ih.callOn calls name arguments none (ih.evaluate calls target)
    | some place => exact ih.callOn calls name arguments (some place) (follows_getPart _ _)
  | some p =>
    refine (ih.evaluateKeys calls p.steps).bind fun keys => (follows_pure _).bind fun place => ?_
    cases place with
    | none => exact ih.callOn calls name arguments none (ih.evaluate calls target)
    | some place => exact ih.callOn calls name arguments (some place) (follows_getPart _ _)

theorem Followed.runAll_succ (calls : Nat) (wanted : Bool) (body : List Script.Statement) :
    Follows fun _ functions => Script.runAll (b.plain functions) fs (n + 1) calls wanted body := by
  rcases body with - | ⟨s, - | ⟨s', rest⟩⟩
  all_goals unfold Script.runAll
  · exact follows_pure Script.Value.unit
  · split
    · exact follows_pure Script.Value.unit
    · exact ih.run calls wanted s
  · split
    · exact (ih.run calls wanted s).bind fun _ => ih.runAll calls wanted (s' :: rest)
    · exact ih.runAll calls wanted (s' :: rest)

theorem Followed.optional_succ (calls : Nat) (e : Option Script.Expression) :
    Follows fun _ functions => Script.optional (b.plain functions) fs (n + 1) calls e := by
  cases e
  all_goals unfold Script.optional
  case none => exact follows_pure Script.Value.unit
  case some e => exact ih.evaluate calls e

theorem Followed.run_succ (calls : Nat) (wanted : Bool) (statement : Script.Statement) :
    Follows fun _ functions =>
      Script.run (b.plain functions) fs (n + 1) calls wanted statement := by
  cases statement
  all_goals unfold Script.run
  case expression e => exact ih.evaluate calls e
  case declare x isConstant value =>
    exact (ih.optional calls value).bind fun v => (follows_declare _).bind fun _ => follows_pure _
  case assign target o value =>
    refine (ih.evaluate calls value).bind fun new => (follows_orFault _ _).bind fun p => ?_
    refine (ih.evaluateKeys calls p.steps).bind fun keys => ?_
    cases o with
    | none => exact (follows_putPart _ _ _).bind fun _ => follows_pure _
    | some o =>
      refine (follows_getPart _ _).bind fun old => (follows_lift _).bind fun combined => ?_
      exact (follows_putPart _ _ _).bind fun _ => follows_pure _
  case block body => exact (ih.runAll calls wanted body).enclosed
  case branch condition yes no =>
    refine (ih.evaluate calls condition).bind fun v => (follows_truth v).bind fun holds => ?_
    cases holds with
    | true => exact (ih.runAll calls wanted yes).enclosed
    | false => exact (ih.runAll calls wanted no).enclosed
  case whilst condition body => exact ih.runWhilst calls condition body
  case forever body => exact ih.runWhilst calls _ body
  case each item counter source body =>
    refine (ih.evaluate calls source).bind fun v => (follows_orFault _ _).bind fun items => ?_
    exact ih.runEach calls item counter body 0 items
  case leave value => exact (ih.optional calls value).bind fun v => follows_throw (.left v)
  case skip => exact follows_throw .skipped
  case give value => exact (ih.optional calls value).bind fun v => follows_throw (.given v)
  case raise value => exact (ih.optional calls value).bind fun v => follows_throw (.raised v)
  case attempt body name rescue =>
    refine (ih.runAll calls false body).enclosed.attempt fun caught => Follows.enclosed ?_
    cases name with
    | none => exact ih.runAll calls false rescue
    | some x => exact (follows_declare _).bind fun _ => ih.runAll calls false rescue

theorem Followed.runWhilst_succ (calls : Nat) (condition : Script.Expression)
    (body : List Script.Statement) : Follows fun _ functions =>
      Script.runWhilst (b.plain functions) fs (n + 1) calls condition body := by
  unfold Script.runWhilst
  refine (ih.evaluate calls condition).bind fun v => (follows_truth v).bind fun holds => ?_
  cases holds with
  | true =>
    refine (ih.runAll calls false body).enclosed.turn.bind fun left => ?_
    cases left with
    | some v => exact follows_pure v
    | none => exact ih.runWhilst calls condition body
  | false => exact follows_pure Script.Value.unit

theorem Followed.runEach_succ (calls : Nat) (item : String) (counter : Option String)
    (body : List Script.Statement) (count : Nat) (source : Script.Source) :
    Follows fun _ functions =>
      Script.runEach (b.plain functions) fs (n + 1) calls item counter body count source := by
  unfold Script.runEach
  rcases source.next? with - | ⟨v, rest⟩
  · exact follows_pure Script.Value.unit
  · refine (Follows.turn (Follows.enclosed ((follows_declare _).bind fun _ => ?_))).bind
      fun left => ?_
    · cases counter with
      | some c => exact (follows_declare _).bind fun _ => (ih.runAll calls false body).enclosed
      | none => exact (ih.runAll calls false body).enclosed
    · cases left with
      | some v => exact follows_pure v
      | none => exact ih.runEach calls item counter body (count + 1) rest

omit ih in
/-- **Every part of a script** has a course. -/
theorem followed (b : Bridge) (fs : List Script.Function) (n : Nat) : Followed b fs n := by
  induction n with
  | zero => exact followed_zero
  | succ n ih =>
    exact ⟨ih.evaluate_succ, ih.evaluateAll_succ, ih.evaluateKeys_succ, ih.callInside_succ,
      ih.callMethod_succ, ih.runAll_succ, ih.run_succ, ih.optional_succ, ih.runWhilst_succ,
      ih.runEach_succ⟩

end Parts

end VectorScene.Command
