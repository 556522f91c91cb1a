import VectorScene.Proofs.Command.Positions
import VectorScene.Proofs.Command.Transcript

/-!
# What calls read

A command is handed all arguments that are given, those that its schema does not declare among them,
and it is recorded with all of them. It reads none that is not declared, and neither does the check
of the arguments nor the expression in the log. So two calls that agree on what is declared do the
same, and leave engines that differ in their own entry only.

## Main definitions

* `Args.AgreeOn`: arguments that agree on what a schema declares
* `Builtin.Confined`: a command that reads what its schema declares
* `SameButEntry`: the ends of two calls that differ in their own entry

## Main results

* `Builtin.all_confined`: every built-in command is confined
* `call_of_agreeOn`: two calls that agree on what is declared
-/

namespace VectorScene.Command

open VectorScene.Geometry Scene

/-! ### Arguments that agree -/

/-- Arguments that agree on what a schema declares. An absent value counts as not given. -/
def Args.AgreeOn (parameters : List Parameter) (args args' : Args) : Prop :=
  ∀ p ∈ parameters, args.get? p.name = args'.get? p.name

theorem findSome?_congr {α β : Type} {l : List α} {f g : α → Option β} (h : ∀ a ∈ l, f a = g a) :
    l.findSome? f = l.findSome? g := by
  induction l with
  | nil => rfl
  | cons a rest ih =>
    obtain ⟨ha, hrest⟩ := List.forall_mem_cons.1 h
    rw [List.findSome?_cons, List.findSome?_cons, ha, ih hrest]

theorem dropWhile_congr {α : Type} {l : List α} {p q : α → Bool} (h : ∀ a ∈ l, p a = q a) :
    l.dropWhile p = l.dropWhile q := by
  induction l with
  | nil => rfl
  | cons a rest ih =>
    obtain ⟨ha, hrest⟩ := List.forall_mem_cons.1 h
    rw [List.dropWhile_cons, List.dropWhile_cons, ha, ih hrest]

namespace Args.AgreeOn

variable {parameters : List Parameter} {args args' : Args} (h : args.AgreeOn parameters args')
include h

theorem present : args.present.AgreeOn parameters args'.present := by
  intro p hp
  rw [get?_present, get?_present, h p hp]

/-- **The check** comes to the same, and keeps what is given on either side. -/
theorem validate :
    (∃ fault, args.validate parameters = .error fault ∧
      args'.validate parameters = .error fault) ∨
    (args.validate parameters = .ok args.present ∧
      args'.validate parameters = .ok args'.present) := by
  have hfault : parameters.findSome? args.fault? = parameters.findSome? args'.fault? :=
    findSome?_congr fun p hp => by rw [fault?, fault?, h p hp]
  unfold Args.validate
  rw [hfault]
  cases parameters.findSome? args'.fault? with
  | some fault => exact .inl ⟨fault, rfl, rfl⟩
  | none => exact .inr ⟨rfl, rfl⟩

/-- **The expression** of a call shows what is declared. -/
theorem callText (name : String) :
    callText name parameters args = Command.callText name parameters args' := by
  have hused : usedParameters parameters args = usedParameters parameters args' := by
    have hcontains : ∀ p ∈ parameters.reverse, (!args.contains p.name) = !args'.contains p.name :=
      fun p hp => by rw [contains, contains, h p (List.mem_reverse.1 hp)]
    rw [usedParameters, usedParameters, dropWhile_congr hcontains]
  have hliterals : (usedParameters parameters args').map (argumentLiteral args) =
      (usedParameters parameters args').map (argumentLiteral args') := by
    obtain ⟨unused, hparameters, -⟩ := usedParameters_append parameters args'
    refine List.map_congr_left fun p hp => ?_
    have hmem : p ∈ parameters := by
      rw [hparameters]
      exact List.mem_append_left unused hp
    rw [argumentLiteral, argumentLiteral, h p hmem]
  rw [Command.callText, Command.callText, callChars, callChars, hused, hliterals]

/-! ### Readers -/

variable {name : String}

theorem get? (hname : name ∈ parameters.map (·.name)) : args.get? name = args'.get? name := by
  obtain ⟨p, hp, rfl⟩ := List.mem_map.1 hname
  exact h p hp

theorem typed {α : Type} {type : ArgType} {read : Value → Option α}
    (hname : name ∈ parameters.map (·.name)) :
    args.typed type read name = args'.typed type read name := by
  rw [Args.typed, Args.typed, h.get? hname]

theorem needed {α : Type} {type : ArgType} {read : Value → Option α}
    (hname : name ∈ parameters.map (·.name)) :
    Args.needed name (args.typed type read name) =
      Args.needed name (args'.typed type read name) := by
  rw [h.typed hname]

theorem color? (hname : "color" ∈ parameters.map (·.name)) : args.color? = args'.color? := by
  unfold Args.color? Args.int?
  rw [h.typed hname]

theorem mode? (hname : name ∈ parameters.map (·.name)) : args.mode? name = args'.mode? name := by
  unfold Args.mode? Args.string?
  rw [h.typed hname]

theorem angle (hangle : "angle" ∈ parameters.map (·.name))
    (hname : name ∈ parameters.map (·.name)) : args.angle name = args'.angle name := by
  unfold Args.angle Args.float Args.float? Args.bool?
  rw [h.needed hangle, h.typed hname]

theorem vector (view : View) (hname : name ∈ parameters.map (·.name)) :
    view.vector args name = view.vector args' name := by
  unfold View.vector Args.string Args.string?
  rw [h.needed hname]

theorem matrix (view : View) (hname : name ∈ parameters.map (·.name)) :
    view.matrix args name = view.matrix args' name := by
  unfold View.matrix Args.string Args.string?
  rw [h.needed hname]

end Args.AgreeOn

/-! ### Commands -/

theorem bind_agree {ε α β : Type} {x x' : Except ε α} {f f' : α → Except ε β} (hx : x = x')
    (hf : ∀ a, f a = f' a) : x >>= f = x' >>= f' := by
  rw [hx, funext hf]

/-- A command that reads what its schema declares, and nothing else. -/
def Builtin.Confined (b : Builtin) : Prop :=
  ∀ (view : View) {args args' : Args}, args.AgreeOn b.definition.parameters args' →
    b.plan view args = b.plan view args'

namespace Builtin

theorem confined_vectorMath : ∀ b ∈ vectorMathCommands, b.Confined := by
  simp only [vectorMathCommands, List.forall_mem_cons]
  refine ⟨?_, ?_, ?_, ?_, ?_, ?_, ?_, ?_, ?_, ?_, ?_, ?_, ?_, ?_, ?_, ?_, by simp⟩
  all_goals
    intro view args args' h
    repeat first
      | refine bind_agree (h.vector view (by decide)) fun v => ?_
      | refine bind_agree (h.matrix view (by decide)) fun m => ?_
      | refine bind_agree (h.needed (by decide)) fun x => ?_
      | refine bind_agree (h.typed (by decide)) fun x => ?_
    rfl

theorem confined_matrixMath : ∀ b ∈ matrixMathCommands, b.Confined := by
  simp only [matrixMathCommands, List.forall_mem_cons]
  refine ⟨?_, ?_, ?_, ?_, ?_, ?_, ?_, ?_, ?_, ?_, by simp⟩
  all_goals
    intro view args args' h
    repeat first
      | refine bind_agree (h.matrix view (by decide)) fun m => ?_
      | refine bind_agree (h.angle (by decide) (by decide)) fun angle => ?_
      | refine bind_agree (h.needed (by decide)) fun x => ?_
    rfl

theorem confined_measuring : ∀ b ∈ measuringCommands, b.Confined := by
  simp only [measuringCommands, List.forall_mem_cons]
  refine ⟨?_, ?_, ?_, ?_, ?_, by simp⟩
  all_goals intro view args args' h
  · exact bind_agree (h.vector view (by decide)) fun a =>
      bind_agree (h.vector view (by decide)) fun b => rfl
  · exact bind_agree (h.vector view (by decide)) fun a =>
      bind_agree (h.vector view (by decide)) fun b => rfl
  · refine bind_agree (h.vector view (by decide)) fun a =>
      bind_agree (h.vector view (by decide)) fun b => ?_
    -- the switch is read if there is an angle
    cases angleBetween? a.displacement b.displacement with
    | none => rfl
    | some angle => exact bind_agree (h.typed (by decide)) fun inDegrees => rfl
  · exact bind_agree (h.needed (by decide)) fun angle => rfl
  · exact bind_agree (h.needed (by decide)) fun angle => rfl

theorem confined_appearance : ∀ b ∈ appearanceCommands, b.Confined := by
  simp only [appearanceCommands, List.forall_mem_cons]
  refine ⟨?_, ?_, ?_, ?_, ?_, ?_, by simp⟩
  all_goals intro view args args' h
  · exact bind_agree (h.needed (by decide)) fun degrees => rfl
  · exact bind_agree (h.vector view (by decide)) fun v => rfl
  · exact bind_agree (h.needed (by decide)) fun on => rfl
  · refine bind_agree (h.needed (by decide)) fun name => ?_
    have hvalue : args.get? "value" = args'.get? "value" := h.get? (by decide)
    simp only [hvalue]
  · exact bind_agree (h.needed (by decide)) fun name => rfl
  · rfl

theorem confined_entities : ∀ b ∈ entitiesCommands, b.Confined := by
  simp only [entitiesCommands, List.forall_mem_cons]
  refine ⟨?_, ?_, ?_, ?_, ?_, ?_, ?_, ?_, ?_, ?_, ?_, ?_, ?_, ?_, ?_, ?_, ?_, ?_, ?_, ?_, ?_, ?_,
    ?_, ?_, by simp⟩
  all_goals
    intro view args args' h
    repeat first
      | refine bind_agree (h.vector view (by decide)) fun v => ?_
      | refine bind_agree (h.matrix view (by decide)) fun m => ?_
      | refine bind_agree (h.angle (by decide) (by decide)) fun angle => ?_
      | refine bind_agree (h.mode? (by decide)) fun mode => ?_
      | refine bind_agree (h.color? (by decide)) fun color => ?_
      | refine bind_agree (h.needed (by decide)) fun x => ?_
      | refine bind_agree (h.typed (by decide)) fun x => ?_
  -- the name of the frame is read if there is one
  case' refine_22 =>
    cases Frame.ofForward? v.tip (some v.start) with
    | none => rfl
    | some frame => exact bind_agree (h.needed (by decide)) fun name => rfl
  all_goals rfl

theorem confined_editing : ∀ b ∈ editingCommands, b.Confined := by
  simp only [editingCommands, List.forall_mem_cons]
  refine ⟨?_, ?_, ?_, ?_, ?_, ?_, ?_, by simp⟩
  all_goals
    intro view args args' h
    repeat first
      | refine bind_agree (h.vector view (by decide)) fun v => ?_
      | refine bind_agree (h.matrix view (by decide)) fun m => ?_
      | refine bind_agree (h.mode? (by decide)) fun mode => ?_
      | refine bind_agree (h.color? (by decide)) fun color => ?_
      | refine bind_agree (h.needed (by decide)) fun x => ?_
      | refine bind_agree (h.typed (by decide)) fun x => ?_
    rfl

theorem confined_meta : ∀ b ∈ metaCommands, b.Confined := by
  simp only [metaCommands, List.forall_mem_cons]
  refine ⟨?_, ?_, ?_, ?_, ?_, by simp⟩
  all_goals intro view args args' h
  · rfl
  · rfl
  · rfl
  · exact bind_agree (h.needed (by decide)) fun text => rfl
  · exact bind_agree (h.needed (by decide)) fun name => rfl

/-- **Every built-in command** reads what its schema declares, and nothing else. -/
theorem all_confined : ∀ b ∈ Builtin.all, b.Confined := by
  simp only [Builtin.all, List.forall_mem_append]
  exact ⟨⟨⟨⟨⟨⟨confined_meta, confined_vectorMath⟩, confined_editing⟩, confined_measuring⟩,
    confined_matrixMath⟩, confined_entities⟩, confined_appearance⟩

end Builtin

/-! ### The log of a call -/

mutual

/-- No call opens or closes a log. -/
theorem Happening.sameLog_marks (table : Table) :
    (h : Happening) → Mark.SameLog (h.marks table)
  | .cleared => by simp [Happening.marks, Mark.SameLog]
  | .called c result inner => by
    obtain ⟨hclosed, hopened⟩ := Happening.sameLog_marksOf table inner
    cases hentry : table.entry? c result <;>
      simp [Happening.marks, Mark.SameLog, hclosed, hopened, hentry]

theorem Happening.sameLog_marksOf (table : Table) :
    (happenings : List Happening) → Mark.SameLog (Happening.marksOf table happenings)
  | [] => by simp [Happening.marksOf, Mark.SameLog]
  | first :: rest => by
    obtain ⟨hclosed, hopened⟩ := Happening.sameLog_marks table first
    obtain ⟨hclosed', hopened'⟩ := Happening.sameLog_marksOf table rest
    simp [Happening.marksOf, Mark.SameLog, hclosed, hopened, hclosed', hopened']

end

namespace Log

/-- The format of the log that is open. -/
def format? (log : Log) : Option LogFormat := log.current.map (·.format)

theorem format?_page? (log : Log) : log.format? = log.page?.map (·.format) := by
  rw [format?, page?, Option.map_map]
  rfl

theorem format?_record (log : Log) (x : Entry) :
    (log.record x.call x.expression).format? = log.format? := by
  rw [format?_page?, format?_page?, page?_record, Option.map_map]
  rfl

/-- In script format the expression is all that is written of a call. -/
theorem record_script {log : Log} (h : ∀ format ∈ log.format?, format = .script) (c c' : Call)
    (expression : String) : log.record c expression = log.record c' expression := by
  unfold record
  cases hcurrent : log.current with
  | none => rfl
  | some current =>
    have hscript : current.format = .script := h _ (by simp [format?, hcurrent])
    simp only [hscript]

end Log

/-- A call keeps the format of the log. -/
theorem dispatch_format (table : Table) (depth : Nat) (surface : Bool) (c : Call) (e : Engine) :
    (dispatch table depth surface c e).2.log.format? = e.log.format? := by
  have hpage := (dispatch_completes table depth surface c e).took.page
  rw [Mark.foldl_onPage (Happening.sameLog_marks table _)] at hpage
  rw [Log.format?_page?, hpage, Option.map_map, Log.format?_page?]
  rfl

/-! ### Calls -/

/-- The entries of two calls of a command, behind the same history and in the same log. -/
structure OwnEntries (d : Definition) (args args' : Args) (e e' : Engine) (before : List Call)
    (written : Log) : Prop where
  history : e.history = before ++ [(Entry.mk d args).call]
  history' : e'.history = before ++ [(Entry.mk d args').call]
  log : e.log = written.record (Entry.mk d args).call (Entry.mk d args).expression
  log' : e'.log = written.record (Entry.mk d args').call (Entry.mk d args).expression

/-- The ends of two calls of a command that come to the same result, and leave engines that differ
in their own entry only. -/
structure SameButEntry (d : Definition) (args args' : Args)
    (x x' : Except Error Value × Engine) : Prop where
  result : x.1 = x'.1
  scene : x.2.scene = x'.2.scene
  draws : x.2.draws = x'.2.draws
  console : x.2.console = x'.2.console
  notices : x.2.notices = x'.2.notices
  /-- A call that fails is not recorded. -/
  failed : ∀ fault, x.1 = .error fault → x.2 = x'.2
  /-- A call that comes to a result is recorded, with all arguments that are given. -/
  recorded : ∀ v, x.1 = .ok v → ∃ before written, OwnEntries d args args' x.2 x'.2 before written

theorem SameButEntry.of_error (d : Definition) (args args' : Args) (fault : Error) (e : Engine) :
    SameButEntry d args args' (.error fault, e) (.error fault, e) :=
  ⟨rfl, rfl, rfl, rfl, rfl, fun _ _ => rfl, nofun⟩

section Recording

variable {d : Definition} {args args' : Args} (h : args.AgreeOn d.parameters args')
include h

theorem Args.AgreeOn.expression : (Entry.mk d args').expression = (Entry.mk d args).expression :=
  (h.callText d.name).symm

/-- A call that is recorded with other arguments that are not declared. -/
theorem Args.AgreeOn.record (surface : Bool) (v : Value) (e : Engine) :
    SameButEntry d args args' (.ok v, e.record d surface args v)
      (.ok v, e.record d surface args' v) := by
  have hworkspace : (e.record d surface args v).workspace =
      (e.record d surface args' v).workspace := by
    rw [Engine.record_workspace, Engine.record_workspace]
  refine ⟨rfl, congrArg Workspace.scene hworkspace, congrArg Workspace.draws hworkspace, ?_, ?_,
    nofun, fun _ _ => ⟨e.history, e.log, ?_, ?_, ?_, ?_⟩⟩
  · rw [Engine.record_console, Engine.record_console, Entry.shown, Entry.shown, h.expression]
  · unfold Engine.record
    simp only
    split <;> rfl
  · exact e.record_history d surface args v
  · exact e.record_history d surface args' v
  · exact e.record_log d surface args v
  · simp only
    rw [← h.expression]
    exact e.record_log d surface args' v

theorem Args.AgreeOn.conclude (surface : Bool) (result : Except Error Value) (e : Engine) :
    SameButEntry d args args' (conclude d surface args result e)
      (conclude d surface args' result e) := by
  cases result with
  | ok v => exact h.record surface v e
  | error fault =>
    cases hl : fault.lookup? with
    | none =>
      rw [conclude_fault d surface args hl, conclude_fault d surface args' hl]
      exact .of_error d args args' fault e
    | some lookup =>
      rw [conclude_lookup d surface args hl, conclude_lookup d surface args' hl]
      exact h.record surface _ _

end Recording

section Calls

variable {b : Builtin} (hb : b ∈ Builtin.all) {args args' : Args}
  (h : args.AgreeOn b.definition.parameters args')
include hb h

/-- Two calls with the same room for the calls inside them. -/
theorem dispatch_of_agreeOn (depth : Nat) (surface : Bool) (e : Engine) :
    SameButEntry b.definition args.present args'.present
        (dispatch Table.builtin depth surface ⟨b.definition.name, args⟩ e)
        (dispatch Table.builtin depth surface ⟨b.definition.name, args'⟩ e) ∧
      inside Table.builtin depth ⟨b.definition.name, args⟩ e =
        inside Table.builtin depth ⟨b.definition.name, args'⟩ e := by
  have hget : Table.builtin.get? b.definition.name = some b.command := Table.builtin_get?_self hb
  cases depth with
  | zero => exact ⟨.of_error _ _ _ _ e, rfl⟩
  | succ depth =>
    rw [dispatch_builtin hget, dispatch_builtin hget, inside_builtin hget, inside_builtin hget]
    rcases h.validate with ⟨fault, hv, hv'⟩ | ⟨hv, hv'⟩
    · simp only [hv, hv', and_true]
      exact .of_error _ _ _ fault e
    · -- the command settles on the same plan, so what it does is the same
      have hplan : b.plan e.builtinView args.present = b.plan e.builtinView args'.present :=
        Builtin.all_confined b hb e.builtinView h.present
      have hsettle : b.settle depth args.present e = b.settle depth args'.present e := by
        rw [Builtin.settle, Builtin.settle, hplan]
      simp only [hv, hv', hplan, hsettle, and_true]
      exact h.present.conclude surface _ _

/-- **Calls read what their command declares.** Two calls of a built-in command that agree on what
its schema declares, where an absent value counts as not given, come to the same result or fail for
the same reason. What happens inside them is the same, and so are the scene, the random numbers, the
console and the notices afterwards. If they fail, the engines are the same altogether; otherwise
each call is recorded with all arguments that are given to it, and the entries agree on what is
declared. In a log in script format, they are one and the same line. -/
theorem call_of_agreeOn (surface : Bool) (e : Engine) :
    let x := e.call Table.builtin surface ⟨b.definition.name, args⟩
    let x' := e.call Table.builtin surface ⟨b.definition.name, args'⟩
    SameButEntry b.definition args.present args'.present x x' ∧
      args.present.AgreeOn b.definition.parameters args'.present ∧
      ((∀ format ∈ e.log.format?, format = .script) → x.2.log = x'.2.log) ∧
      inside Table.builtin (args.longest + Engine.nestingLimit) ⟨b.definition.name, args⟩ e =
        inside Table.builtin (args'.longest + Engine.nestingLimit) ⟨b.definition.name, args'⟩ e := by
  intro x x'
  -- room for the lists in the arguments of both
  have hroom : args.longest + 2 ≤ max args.longest args'.longest + 2 :=
    Nat.add_le_add_right (Nat.le_max_left _ _) 2
  have hroom' : args'.longest + 2 ≤ max args.longest args'.longest + 2 :=
    Nat.add_le_add_right (Nat.le_max_right _ _) 2
  obtain ⟨hx, hinside⟩ :=
    Engine.dispatch_eq_call (c := ⟨b.definition.name, args⟩) hroom surface e
  obtain ⟨hx', hinside'⟩ :=
    Engine.dispatch_eq_call (c := ⟨b.definition.name, args'⟩) hroom' surface e
  obtain ⟨hends, hsame⟩ := dispatch_of_agreeOn hb h (max args.longest args'.longest + 2) surface e
  rw [hx, hx'] at hends
  rw [hinside, hinside'] at hsame
  refine ⟨hends, h.present, fun hscript => ?_, hsame⟩
  cases hresult : x.1 with
  | error fault => exact congrArg Engine.log (hends.failed fault hresult)
  | ok v =>
    obtain ⟨before, written, hown⟩ := hends.recorded v hresult
    -- the log was in script format before the call was recorded
    have hformat : written.format? = e.log.format? := by
      have hcall := dispatch_format Table.builtin (args.longest + Engine.nestingLimit) surface
        ⟨b.definition.name, args⟩ e
      have hlog : x.2.log.format? = e.log.format? := hcall
      rw [hown.log, Log.format?_record] at hlog
      exact hlog
    rw [hown.log, hown.log']
    exact Log.record_script (by rw [hformat]; exact hscript) _ _ _

end Calls

/-- `createVector2` declares a name and an end point: whatever else is given, be it a color that is
none, makes no difference. -/
theorem call_of_agreeOn_extra :
    let e := Engine.fresh ⟨fun _ => 0.5, 0⟩ {}
    let given := [("name", Value.string "a"),
      ("endPosition", Value.list [.int 1, .int 0, .int 0])]
    let extra := [("color", Value.string "red"), ("renderMode", Value.int 3)]
    let args := Args.ofList given
    let args' := Args.ofList (given ++ extra)
    args.AgreeOn Builtin.createVector2.definition.parameters args' ∧
      (e.call Table.builtin true ⟨"createVector2", args⟩).1.isOk ∧
      SameButEntry Builtin.createVector2.definition args.present args'.present
        (e.call Table.builtin true ⟨"createVector2", args⟩)
        (e.call Table.builtin true ⟨"createVector2", args'⟩) := by
  intro e given extra args args'
  have hagree : args.AgreeOn Builtin.createVector2.definition.parameters args' := by
    simp only [Args.AgreeOn, Builtin.createVector2, List.forall_mem_cons]
    exact ⟨rfl, rfl, by simp⟩
  have hcalls := call_of_agreeOn (b := Builtin.createVector2)
    (by simp [Builtin.all, Builtin.entitiesCommands]) hagree true e
  exact ⟨hagree, by decide, hcalls.1⟩

end VectorScene.Command
