import VectorScene.Script.Evaluation
import VectorScene.Script.Token

/-!
# Running calls

The values of constants and of arrays of them are found without an effect, and a script that is one
call has the effect of that call.

## Main results

* `evaluate_literal`, `evaluate_array`, `evaluateAll_cons`: constants
* `evaluate_call`: a call of a function of the host
* `run_attempt_call`: a call whose failure is caught
* `Program.run_call`: a script that is one call
-/

namespace VectorScene.Script

section

variable {σ : Type}

theorem Run.bind_ok {α β : Type} {x : Run σ α} {f : α → Run σ β} {a : α} {m m' : Machine σ}
    (h : x m = (.ok a, m')) : (x >>= f) m = f a m' := by
  change StateT.bind x (ExceptT.bindCont f) m = f a m'
  rw [StateT.bind, h]
  rfl

theorem Run.bind_error {α β : Type} {x : Run σ α} {f : α → Run σ β} {stop : Stop}
    {m m' : Machine σ} (h : x m = (.error stop, m')) : (x >>= f) m = (.error stop, m') := by
  change StateT.bind x (ExceptT.bindCont f) m = (.error stop, m')
  rw [StateT.bind, h]
  rfl

variable (host : Host σ) (functions : List Function) (n calls : Nat) (m : Machine σ)

/-! ### Constants -/

theorem evaluate_literal (v : Value) :
    evaluate host functions (n + 1) calls (.literal v) m = (.ok v, m) := by
  unfold evaluate
  rfl

theorem evaluateAll_nil : evaluateAll host functions (n + 1) calls [] m = (.ok [], m) := by
  unfold evaluateAll
  rfl

variable {host functions n calls m}

theorem evaluateAll_cons {e : Expression} {rest : List Expression} {v : Value}
    {others : List Value} (h : evaluate host functions n calls e m = (.ok v, m))
    (hrest : evaluateAll host functions n calls rest m = (.ok others, m)) :
    evaluateAll host functions (n + 1) calls (e :: rest) m = (.ok (v :: others), m) := by
  unfold evaluateAll
  exact (Run.bind_ok h).trans (Run.bind_ok hrest)

theorem evaluate_array {items : List Expression} {values : List Value}
    (h : evaluateAll host functions n calls items m = (.ok values, m)) :
    evaluate host functions (n + 1) calls (.array items) m = (.ok (.array values), m) := by
  unfold evaluate
  exact Run.bind_ok h

/-! ### Calls -/

variable (host m) in
/-- A function that is called by a name that no other function has is one of the host. -/
theorem callOutside_eq {name : String} {values : List Value} (hname : name ∉ functionWords)
    (hcommon : commonFunction? name values = none) : callOutside host name values m =
      match host.call name values m.host with
      | some (.ok v, state) => (.ok (v, none), { m with host := state })
      | some (.error v, state) => (.error (.raised v), { m with host := state })
      | none => (.error (.fault (.unknownFunction name values.length)), m) := by
  have hprint : isPrinter name values = false ∧ isTracer name values = false := by
    simp only [functionWords, List.mem_cons, List.not_mem_nil, or_false, not_or] at hname
    simp [isPrinter, isTracer, hname]
  simp only [callOutside, hprint, hcommon]
  rfl

/-- What a function of the host leaves: its result, and its state beside the variables. -/
def Machine.behind (m : Machine σ) : Except Value Value × σ → Except Stop Value × Machine σ
  | (.ok v, host) => (.ok v, { m with host })
  | (.error v, host) => (.error (.raised v), { m with host })

/-- **A function of the host** is called by a name that no other function has. -/
theorem evaluate_call {name : String} {arguments : List Expression} {values : List Value}
    {after : Except Value Value × σ}
    (hvalues : evaluateAll host [] n calls arguments m = (.ok values, m))
    (hname : name ∉ functionWords) (hcommon : commonFunction? name values = none)
    (hcall : host.call name values m.host = some after) :
    evaluate host [] (n + 1) calls (.call name arguments) m = m.behind after := by
  have houtside := callOutside_eq host m hname hcommon
  rw [hcall] at houtside
  unfold evaluate
  refine (Run.bind_ok hvalues).trans ?_
  -- a value that the function raises goes past the rest of the call
  obtain ⟨v | v, state⟩ := after
  · exact Run.bind_error houtside
  · exact Run.bind_ok houtside

/-- No function is called by a name that none has. -/
theorem evaluate_call_unknown {name : String} {arguments : List Expression}
    {values : List Value} (hvalues : evaluateAll host [] n calls arguments m = (.ok values, m))
    (hname : name ∉ functionWords) (hcommon : commonFunction? name values = none)
    (hcall : host.call name values m.host = none) :
    evaluate host [] (n + 1) calls (.call name arguments) m =
      (.error (.fault (.unknownFunction name values.length)), m) := by
  have houtside := callOutside_eq host m hname hcommon
  rw [hcall] at houtside
  unfold evaluate
  exact (Run.bind_ok hvalues).trans (Run.bind_error houtside)

/-! ### Statements -/

/-- The last statement is run, whether or not its value is wanted, if it is not a pure one. -/
theorem runAll_last {s : Statement} (hs : s.isPure = false) (wanted : Bool) :
    runAll host functions (n + 1) calls wanted [s] m = run host functions n calls wanted s m := by
  unfold runAll
  exact congrFun (if_neg (by simp [hs])) m

/-- Statements that are one call. -/
theorem runAll_call (name : String) (arguments : List Expression) (wanted : Bool) :
    runAll host functions (n + 2) calls wanted [.expression (.call name arguments)] m =
      evaluate host functions n calls (.call name arguments) m := by
  rw [runAll_last (by simp [Statement.isPure, Expression.isPure])]
  unfold run
  rfl

/-- The value of a statement is forgotten if another one stands behind it. -/
theorem runAll_cons {s next : Statement} {rest : List Statement} {wanted : Bool} {v : Value}
    {m' : Machine σ} (hs : s.isPure = false)
    (h : run host functions n calls wanted s m = (.ok v, m')) :
    runAll host functions (n + 1) calls wanted (s :: next :: rest) m =
      runAll host functions n calls wanted (next :: rest) m' := by
  rw [runAll.eq_def]
  exact (congrFun (if_pos (by simp [hs])) m).trans (Run.bind_ok h)

/-- Nothing is forgotten behind a block that declares nothing. -/
theorem Run.enclosed_of_scope_eq {α : Type} {x : Run σ α} {result : Except Stop α}
    {m' : Machine σ} (h : x m = (result, m')) (hscope : m'.scope = m.scope) :
    Run.enclosed x m = (result, m') := by
  obtain ⟨state, scope⟩ := m'
  have hscope : scope = m.scope := hscope
  simp only [enclosed, h, hscope, Nat.sub_self, List.drop_zero]

/-- **A call whose failure is caught**, with nothing to do about it. -/
theorem run_attempt_call {name : String} {arguments : List Expression} (wanted : Bool)
    {v : Except Value Value} {state : σ}
    (h : evaluate host functions n calls (.call name arguments) m = m.behind (v, state)) :
    run host functions (n + 3) calls wanted
      (.attempt [.expression (.call name arguments)] none []) m =
        (.ok .unit, { m with host := state }) := by
  have hbody := (runAll_call name arguments false).trans h
  unfold run
  change Run.attempt _ _ m = _
  unfold Run.attempt
  cases v with
  | ok v => rw [Run.enclosed_of_scope_eq hbody rfl]
  | error v =>
    have hrescue : runAll host functions (n + 2) calls false [] { m with host := state } =
        (.ok .unit, { m with host := state }) := by
      unfold runAll
      rfl
    rw [Run.enclosed_of_scope_eq hbody rfl]
    simp only [Run.again]
    rw [Run.enclosed_of_scope_eq hrescue rfl]

/-- **A script** that is one call. -/
theorem Program.run_call {name : String} {arguments : List Expression} {length : Nat}
    {v : Except Value Value} {state : σ} (hsteps : stepLimit + length = n + 2)
    (h : evaluate host [] n 0 (.call name arguments) m = m.behind (v, state)) :
    (Program.mk [] [.expression (.call name arguments)] length).run host m =
      (v.mapError fun v => .uncaught v.display, { m with host := state }) := by
  have hrun := (runAll_call name arguments true).trans h
  unfold Program.run
  simp only [hsteps, hrun]
  cases v <;> rfl

/-- A script that catches the failure of a call, and goes on with a call that fails. -/
theorem Program.run_caught {name unknown : String} {arguments : List Expression} {length : Nat}
    {v : Except Value Value} {state : σ} (hsteps : stepLimit + length = n + 5)
    (h : evaluate host [] (n + 1) 0 (.call name arguments) m = m.behind (v, state))
    (hname : unknown ∉ functionWords) (hcommon : commonFunction? unknown [] = none)
    (hcall : host.call unknown [] state = none) :
    (Program.mk [] [.attempt [.expression (.call name arguments)] none [],
      .expression (.call unknown [])] length).run host m =
        (.error (.unknownFunction unknown 0), { m with host := state }) := by
  have hfirst := run_attempt_call true h
  have hunknown : evaluate host [] (n + 2) 0 (.call unknown []) { m with host := state } =
      (.error (.fault (.unknownFunction unknown 0)), { m with host := state }) :=
    evaluate_call_unknown (evaluateAll_nil ..) hname hcommon hcall
  have hrun := (runAll_cons (by simp [Statement.isPure, arePureStatements, Expression.isPure])
    hfirst).trans ((runAll_call unknown [] true).trans hunknown)
  unfold Program.run
  simp only [hsteps, hrun]

end

end VectorScene.Script
