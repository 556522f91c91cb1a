import VectorScene.Proofs.Command.Arguments
import VectorScene.Proofs.Command.Copies

/-!
# Schemas and handlers

The arguments of a call are checked against the schema of the command before the command runs. If
the check fails, the error names the first parameter at fault. If it succeeds, then whatever the
command reads from its arguments is there and has the type that it is read as, and the same holds of
the command that it runs. So only what no schema says can still go wrong.

## Main definitions

* `Args.Fit`: arguments without a fault against a schema
* `Args.FirstFault`: the first parameter at fault, and what is wrong
* `Error.Residual`: the errors that a schema does not rule out
* `Sound`: a step that fails on a name or with such an error only
* `Plan.Fitting`: a plan that runs another command with arguments that fit

## Main results

* `Builtin.all_sound`: every built-in command but the one for command lists
* `dispatch_checked`: what a call of one of them gives
-/

namespace VectorScene.Command

open Scene

/-! ### The check -/

namespace Args

/-- Arguments without a fault against a schema. -/
def Fit (args : Args) (parameters : List Parameter) : Prop :=
  ∀ p ∈ parameters, args.fault? p = none

theorem Fit.validate {args : Args} {parameters : List Parameter} (h : args.Fit parameters) :
    args.validate parameters = .ok args.present := by
  rw [Args.validate, List.findSome?_eq_none_iff.2 h]

theorem Fit.present {args : Args} {parameters : List Parameter} (h : args.Fit parameters) :
    args.present.Fit parameters := by
  intro p hp
  rw [fault?_present]
  exact h p hp

theorem validate_fit {args args' : Args} {parameters : List Parameter}
    (h : args.validate parameters = .ok args') : args.Fit parameters := by
  unfold Args.validate at h
  split at h
  · cases h
  · rename_i hnone
    exact fun p hp => List.findSome?_eq_none_iff.1 hnone p hp

/-- What is wrong with the argument of a parameter: it has to be given and is not, or is absent; or
it is given and is not of the type. -/
inductive Offends (args : Args) (p : Parameter) : Error → Prop where
  | missing : p.required = true → (∀ v, (p.name, v) ∈ args.entries → v.isAbsent = true) →
    Offends args p (.missing p.name)
  | wrongType {v : Value} : (p.name, v) ∈ args.entries → v.isAbsent = false →
    p.type.accepts v = false → Offends args p (.argument p.name (.wrongType p.type v))

/-- The fault of the first parameter that has one. -/
def FirstFault (args : Args) (parameters : List Parameter) (fault : Error) : Prop :=
  ∃ before p after, parameters = before ++ p :: after ∧ args.Fit before ∧ args.Offends p fault

variable {args : Args} {parameters : List Parameter}

theorem fault?_eq_some {p : Parameter} {fault : Error} (h : args.fault? p = some fault) :
    args.Offends p fault := by
  unfold fault? at h
  split at h
  · rename_i hnone
    split at h
    · rename_i hrequired
      cases h
      refine .missing hrequired fun v hv => Bool.not_eq_false _ ▸ fun habsent => ?_
      rw [get?_eq_some_iff.2 ⟨hv, habsent⟩] at hnone
      cases hnone
    · cases h
  · rename_i v hv
    split at h
    · cases h
    · rename_i hrefused
      cases h
      obtain ⟨hmem, hgiven⟩ := get?_eq_some_iff.1 hv
      exact .wrongType hmem hgiven (Bool.eq_false_iff.2 hrefused)

/-- **A check that fails** names the first parameter at fault. -/
theorem validate_firstFault {fault : Error} (h : args.validate parameters = .error fault) :
    args.FirstFault parameters fault := by
  unfold Args.validate at h
  split at h
  · rename_i hsome
    cases h
    obtain ⟨before, p, after, rfl, hp, hbefore⟩ := List.findSome?_eq_some_iff.1 hsome
    exact ⟨before, p, after, rfl, hbefore, fault?_eq_some hp⟩
  · cases h

/-- **Arguments of a list** fit if each is declared with its type, and each that has to be given is
there. -/
theorem fit_ofList {entries : List (String × Value)} (hnames : (parameters.map (·.name)).Nodup)
    (hnodup : (entries.map (·.1)).Nodup)
    (hrequired : ∀ p ∈ parameters, p.required = true → p.name ∈ entries.map (·.1))
    (hdeclared : ∀ e ∈ entries, e.2.isAbsent = false ∧
      ∃ p ∈ parameters, p.name = e.1 ∧ p.type.accepts e.2 = true) :
    (ofList entries).Fit parameters := by
  intro p hp
  have hget := get?_ofList hnodup p.name
  cases hlookup : entries.lookup p.name with
  | none =>
    have hnot : p.required = false := by
      refine Bool.eq_false_iff.2 fun h => ?_
      obtain ⟨e, he, hname⟩ := List.mem_map.1 (hrequired p hp h)
      have := List.lookup_eq_none_iff.1 hlookup e he
      simp [hname] at this
    rw [hlookup] at hget
    simp only [fault?, hget, Option.filter_none, hnot]
    rfl
  | some v =>
    have hmem := (lookup_eq_some_iff_mem hnodup).1 hlookup
    obtain ⟨hgiven, q, hq, hname, haccepts⟩ := hdeclared _ hmem
    -- no other parameter has the name
    obtain rfl : q = p := List.inj_on_of_nodup_map hnames hq hp hname
    rw [hlookup, Option.filter_some, if_pos (by simp [hgiven])] at hget
    exact fault?_of_accepts hget haccepts

end Args

/-! ### What can still go wrong -/

/-- The errors that a schema does not rule out: an integer that is no color, a vector without a
direction, a matrix without an inverse, a render mode or a setting that there is not, and a setting
of another type. -/
inductive Error.Residual : Error → Prop where
  | color {i : Int64} : ¬(0 ≤ i.toInt ∧ i.toInt ≤ Color.limit.toNat) →
    Residual (.argument "color" (.notAColor i))
  | noForward (name : String) : Residual (.argument name .noForward)
  | noAxis (name : String) : Residual (.argument name .noAxis)
  | singular (name : String) : Residual (.argument name .singular)
  | mode {name : String} : RenderMode.ofName? name = none → Residual (.scene (.unknownMode name))
  | setting {name : String} : Setting.ofName? name = none →
    Residual (.scene (.unknownSetting name))
  | settingType {name : String} {setting : Setting} (cause : Json.Cause) :
    Setting.ofName? name = some setting → Residual (.scene (.wrongSetting name cause))

/-- A step whose results are of some kind, and which fails only because a name is taken or not
found, or with an error that a schema does not rule out. -/
def Sound {α : Type} (P : α → Prop) : Except Error α → Prop
  | .ok a => P a
  | .error fault => fault.lookup?.isSome ∨ fault.Residual

section Sound

variable {α β : Type} {P : α → Prop} {Q : β → Prop}

theorem sound_bind {x : Except Error α} {f : α → Except Error β} (hx : Sound P x)
    (hf : ∀ a, P a → Sound Q (f a)) : Sound Q (x >>= f) := by
  cases x with
  | error fault => exact hx
  | ok a => exact hf a hx

theorem sound_require [Entity α] (r : Registry α) (key : String) :
    Sound (fun _ => True) ((r.require key).mapError Error.scene) := by
  unfold Registry.require
  cases r.get? key with
  | some a => exact trivial
  | none => exact .inl rfl

theorem sound_getNamed (s : Settings) (name : String) :
    Sound (fun _ => True) ((s.getNamed name).mapError Error.scene) := by
  unfold Settings.getNamed
  cases hname : Setting.ofName? name with
  | none => exact .inr (.setting hname)
  | some setting => exact trivial

theorem sound_setNamed (s : Settings) (name : String) (d : Json.Document) :
    Sound (fun _ => True) ((s.setNamed name d).mapError Error.scene) := by
  unfold Settings.setNamed
  cases hname : Setting.ofName? name with
  | none => exact .inr (.setting hname)
  | some setting =>
    simp only
    cases s.set setting d with
    | ok s => exact trivial
    | error cause => exact .inr (.settingType cause hname)

end Sound

/-! ### What is read from arguments -/

namespace Args.Fit

variable {args : Args} {parameters : List Parameter} (h : args.Fit parameters)

include h

/-- What is read as the type that is declared for it can be read. -/
theorem typed {α : Type} {read : Value → Option α} {p : Parameter} (hp : p ∈ parameters)
    (hread : ∀ v, p.type.accepts v = true → (read v).isSome) :
    Sound (fun o => p.required = true → o.isSome) (args.typed p.type read p.name) := by
  have hfault := h p hp
  unfold Args.typed
  unfold fault? at hfault
  cases hget : args.get? p.name with
  | none =>
    simp only [hget] at hfault
    intro hrequired
    simp [hrequired] at hfault
  | some v =>
    simp only [hget, ite_eq_left_iff, reduceCtorEq, imp_false, Bool.not_eq_true,
      Bool.not_eq_false] at hfault
    obtain ⟨a, ha⟩ := Option.isSome_iff_exists.1 (hread v hfault)
    simp only [ha]
    exact fun _ => rfl

theorem given {name : String} {type : ArgType} (hp : required name type ∈ parameters) :
    ∃ v, args.get? name = some v := by
  have hfault := h _ hp
  unfold fault? at hfault
  split at hfault
  · simp [required] at hfault
  · exact ⟨_, ‹_›⟩

theorem maybe {α : Type} {read : Value → Option α} {p : Parameter} (hp : p ∈ parameters)
    (hread : ∀ v, p.type.accepts v = true → (read v).isSome) :
    Sound (fun _ => True) (args.typed p.type read p.name) := by
  have := h.typed hp hread
  cases hx : args.typed p.type read p.name with
  | ok o => exact trivial
  | error fault =>
    rw [hx] at this
    exact this

theorem needed {α : Type} {read : Value → Option α} {name : String} {type : ArgType}
    (hp : required name type ∈ parameters)
    (hread : ∀ v, type.accepts v = true → (read v).isSome) :
    Sound (fun _ => True) (Args.needed name (args.typed type read name)) := by
  have := h.typed hp hread
  cases hx : args.typed type read name with
  | error fault =>
    rw [show (required name type).type = type from rfl,
      show (required name type).name = name from rfl, hx] at this
    exact this
  | ok o =>
    rw [show (required name type).type = type from rfl,
      show (required name type).name = name from rfl, hx] at this
    obtain ⟨a, rfl⟩ := Option.isSome_iff_exists.1 (this rfl)
    exact trivial

variable {name : String}

theorem string? (hp : Command.optional name .string ∈ parameters) :
    Sound (fun _ => True) (args.string? name) := h.maybe hp fun _ hv => hv

theorem float? (hp : Command.optional name .float ∈ parameters) :
    Sound (fun _ => True) (args.float? name) := h.maybe hp fun _ hv => hv

theorem int? (hp : Command.optional name .int ∈ parameters) :
    Sound (fun _ => True) (args.int? name) := h.maybe hp fun _ hv => hv

theorem bool? (hp : Command.optional name .bool ∈ parameters) :
    Sound (fun _ => True) (args.bool? name) := h.maybe hp fun _ hv => hv

theorem point? (hp : Command.optional name .point ∈ parameters) :
    Sound (fun _ => True) (args.point? name) := h.maybe hp fun _ hv => hv

theorem transform? (hp : Command.optional name .transform ∈ parameters) :
    Sound (fun _ => True) (args.transform? name) := h.maybe hp fun _ hv => hv

theorem string (hp : required name .string ∈ parameters) :
    Sound (fun _ => True) (args.string name) := h.needed hp fun _ hv => hv

theorem float (hp : required name .float ∈ parameters) :
    Sound (fun _ => True) (args.float name) := h.needed hp fun _ hv => hv

theorem int (hp : required name .int ∈ parameters) :
    Sound (fun _ => True) (args.int name) := h.needed hp fun _ hv => hv

theorem bool (hp : required name .bool ∈ parameters) :
    Sound (fun _ => True) (args.bool name) := h.needed hp fun _ hv => hv

theorem point (hp : required name .point ∈ parameters) :
    Sound (fun _ => True) (args.point name) := h.needed hp fun _ hv => hv

theorem transform (hp : required name .transform ∈ parameters) :
    Sound (fun _ => True) (args.transform name) := h.needed hp fun _ hv => hv

theorem vector (view : View) (hp : required name .string ∈ parameters) :
    Sound (fun _ => True) (view.vector args name) :=
  sound_bind (h.string hp) fun _ _ => sound_require _ _

theorem matrix (view : View) (hp : required name .string ∈ parameters) :
    Sound (fun _ => True) (view.matrix args name) :=
  sound_bind (h.string hp) fun _ _ => sound_require _ _

/-- An integer may be no color. -/
theorem color? (hp : Command.optional "color" .int ∈ parameters) :
    Sound (fun _ => True) args.color? := by
  refine sound_bind (h.int? hp) fun o _ => ?_
  cases o with
  | none => exact trivial
  | some i =>
    simp only
    split
    · exact trivial
    · rename_i hrange
      exact .inr (.color hrange)

/-- A text may be no name of a render mode. -/
theorem mode? (hp : Command.optional name .string ∈ parameters) :
    Sound (fun _ => True) (args.mode? name) := by
  refine sound_bind (h.string? hp) fun o _ => ?_
  cases o with
  | none => exact trivial
  | some text =>
    simp only
    cases hmode : RenderMode.ofName? text with
    | some mode => exact trivial
    | none => exact .inr (.mode hmode)

theorem angle (hangle : required "angle" .float ∈ parameters)
    (hp : required name .bool ∈ parameters) : Sound (fun _ => True) (args.angle name) := by
  refine sound_bind (h.float hangle) fun angle _ => ?_
  refine sound_bind (h.maybe hp fun _ hv => hv) fun inDegrees _ => ?_
  split <;> exact trivial

end Args.Fit

/-! ### Commands -/

/-- A plan that runs no command list, and another command only if it is a target and its arguments
fit. -/
def Plan.Fitting : Plan → Prop
  | .delegate c => ∃ t ∈ Builtin.targets, c.name = t.definition.name ∧
      c.args.Fit t.definition.parameters
  | .replay _ => False
  | _ => True

namespace Builtin

/-- A command whose plans are fitting if its arguments fit. -/
def Sound (b : Builtin) : Prop :=
  ∀ view args, args.Fit b.definition.parameters →
    Command.Sound Plan.Fitting (b.plan view args)

theorem sound_delegate {t : Builtin} (ht : t ∈ targets) {args : Args}
    (h : args.Fit t.definition.parameters) :
    Command.Sound Plan.Fitting (.ok (.delegate ⟨t.definition.name, args⟩)) :=
  ⟨t, ht, rfl, h⟩

theorem sound_vectorMath : ∀ b ∈ vectorMathCommands, b.Sound := by
  simp only [vectorMathCommands, List.forall_mem_cons]
  refine ⟨?_, ?_, ?_, ?_, ?_, ?_, ?_, ?_, ?_, ?_, ?_, ?_, ?_, ?_, ?_, ?_, by simp⟩
  all_goals
    intro view args h
    repeat first
      | refine sound_bind (h.vector view (by decide)) fun v _ => ?_
      | refine sound_bind (h.matrix view (by decide)) fun m _ => ?_
      | refine sound_bind (h.float (by decide)) fun x _ => ?_
      | refine sound_bind (h.bool? (by decide)) fun b _ => ?_
    try exact trivial
  -- a vector of length zero has no axis
  cases Geometry.Frame.ofForward? v.tip none with
  | none => exact .inr (.noAxis _)
  | some axis => exact trivial

theorem sound_matrixMath : ∀ b ∈ matrixMathCommands, b.Sound := by
  simp only [matrixMathCommands, List.forall_mem_cons]
  refine ⟨?_, ?_, ?_, ?_, ?_, ?_, ?_, ?_, ?_, ?_, by simp⟩
  all_goals
    intro view args h
    repeat first
      | refine sound_bind (h.matrix view (by decide)) fun m _ => ?_
      | refine sound_bind (h.angle (by decide) (by decide)) fun angle _ => ?_
      | refine sound_bind (h.point (by decide)) fun p _ => ?_
    try exact trivial
  cases m.transform.inverse? with
  | none => exact .inr (.singular _)
  | some inverse => exact trivial

theorem sound_measuring : ∀ b ∈ measuringCommands, b.Sound := by
  simp only [measuringCommands, List.forall_mem_cons]
  refine ⟨?_, ?_, ?_, ?_, ?_, by simp⟩
  all_goals intro view args h
  · refine sound_bind (h.vector view (by decide)) fun a _ => ?_
    exact sound_bind (h.vector view (by decide)) fun b _ => trivial
  · refine sound_bind (h.vector view (by decide)) fun a _ => ?_
    exact sound_bind (h.vector view (by decide)) fun b _ => trivial
  · refine sound_bind (h.vector view (by decide)) fun a _ => ?_
    refine sound_bind (h.vector view (by decide)) fun b _ => ?_
    cases Geometry.angleBetween? a.displacement b.displacement with
    | none => exact trivial
    | some angle =>
      refine sound_bind (P := fun _ => True) ?_ fun inDegrees _ => trivial
      exact h.bool? (by decide)
  · exact sound_bind (h.float (by decide)) fun angle _ => trivial
  · exact sound_bind (h.float (by decide)) fun angle _ => trivial

theorem sound_appearance : ∀ b ∈ appearanceCommands, b.Sound := by
  simp only [appearanceCommands, List.forall_mem_cons]
  refine ⟨?_, ?_, ?_, ?_, ?_, ?_, by simp⟩
  all_goals intro view args h
  · exact sound_bind (h.float (by decide)) fun degrees _ => trivial
  · exact sound_bind (h.vector view (by decide)) fun v _ => trivial
  · exact sound_bind (h.bool (by decide)) fun on _ => trivial
  · refine sound_bind (h.string (by decide)) fun name _ => ?_
    obtain ⟨value, hvalue⟩ : ∃ v, args.get? "value" = some v :=
      h.given (show required "value" .any ∈ _ by decide)
    simp only [hvalue]
    exact sound_bind (sound_setNamed _ _ _) fun settings _ => trivial
  · refine sound_bind (h.string (by decide)) fun name _ => ?_
    exact sound_bind (sound_getNamed _ _) fun d _ => trivial
  · exact trivial

theorem sound_entities : ∀ b ∈ entitiesCommands, b.Sound := by
  simp only [entitiesCommands, List.forall_mem_cons]
  refine ⟨?_, ?_, ?_, ?_, ?_, ?_, ?_, ?_, ?_, ?_, ?_, ?_, ?_, ?_, ?_, ?_, ?_, ?_, ?_, ?_, ?_, ?_,
    ?_, ?_, by simp⟩
  all_goals intro view args h
  -- listing and dumping
  · exact trivial
  · exact trivial
  · exact sound_bind (h.vector view (by decide)) fun v _ => trivial
  · exact sound_bind (h.vector view (by decide)) fun v _ => trivial
  · exact sound_bind (h.matrix view (by decide)) fun m _ => trivial
  -- vectors
  · refine sound_bind (h.mode? (by decide)) fun mode _ => ?_
    refine sound_bind (h.color? (by decide)) fun color _ => ?_
    refine sound_bind (h.bool? (by decide)) fun labelled _ => ?_
    refine sound_bind (h.string? (by decide)) fun label _ => ?_
    refine sound_bind (h.bool? (by decide)) fun visible _ => ?_
    refine sound_bind (h.point? (by decide)) fun scale _ => ?_
    refine sound_bind (h.string (by decide)) fun name _ => ?_
    refine sound_bind (h.point (by decide)) fun start _ => ?_
    exact sound_bind (h.point (by decide)) fun tip _ => trivial
  · refine sound_bind (h.string (by decide)) fun name _ => ?_
    exact sound_bind (h.point (by decide)) fun tip _ => trivial
  · refine sound_bind (h.string (by decide)) fun name _ => ?_
    refine sound_bind (h.point (by decide)) fun direction _ => ?_
    exact sound_bind (h.float (by decide)) fun magnitude _ => trivial
  · rw [duplicateVector_plan]
    refine sound_bind (h.vector view (by decide)) fun v _ => ?_
    refine sound_bind (h.string (by decide)) fun name _ => ?_
    exact sound_delegate (t := createVector) (by simp [targets])
      (Args.validate_fit (copyArgs_validate name v))
  · refine sound_bind (h.int (by decide)) fun count _ => ?_
    refine sound_bind (h.float (by decide)) fun length _ => ?_
    refine sound_bind (h.bool (by decide)) fun unit _ => ?_
    exact sound_bind (h.mode? (by decide)) fun mode _ => trivial
  -- taking away and showing
  · exact sound_bind (h.string (by decide)) fun key _ => trivial
  · exact sound_bind (h.string (by decide)) fun key _ => trivial
  · refine sound_bind (h.string (by decide)) fun key _ => ?_
    exact sound_bind (h.bool (by decide)) fun visible _ => trivial
  · refine sound_bind (h.string (by decide)) fun key _ => ?_
    exact sound_bind (h.bool (by decide)) fun visible _ => trivial
  -- matrices
  · refine sound_bind (h.string (by decide)) fun name _ => ?_
    exact sound_bind (h.transform (by decide)) fun transform _ => trivial
  · exact sound_bind (h.string (by decide)) fun name _ => trivial
  · refine sound_bind (h.angle (by decide) (by decide)) fun angle _ => ?_
    exact sound_bind (h.string (by decide)) fun name _ => trivial
  · refine sound_bind (h.angle (by decide) (by decide)) fun angle _ => ?_
    exact sound_bind (h.string (by decide)) fun name _ => trivial
  · refine sound_bind (h.angle (by decide) (by decide)) fun angle _ => ?_
    exact sound_bind (h.string (by decide)) fun name _ => trivial
  · refine sound_bind (h.point (by decide)) fun scale _ => ?_
    exact sound_bind (h.string (by decide)) fun name _ => trivial
  · refine sound_bind (h.point (by decide)) fun place _ => ?_
    exact sound_bind (h.string (by decide)) fun name _ => trivial
  · refine sound_bind (h.vector view (by decide)) fun v _ => ?_
    cases Geometry.Frame.ofForward? v.tip (some v.start) with
    | none => exact .inr (.noForward _)
    | some frame =>
      refine sound_bind (P := fun _ => True) ?_ fun name _ => trivial
      exact h.string (by decide)
  -- the whole scene
  · exact trivial
  · exact sound_bind (h.bool? (by decide)) fun forgets _ => trivial

/-- To edit a vector takes nothing but its name; the changes only have to be declared. -/
theorem sound_updateVector (key : String) {changes : List (String × Value)}
    (hnodup : ("vector" :: changes.map (·.1)).Nodup)
    (hdeclared : ∀ e ∈ changes, e.2.isAbsent = false ∧
      ∃ p ∈ updateVector.definition.parameters, p.name = e.1 ∧ p.type.accepts e.2 = true) :
    Command.Sound Plan.Fitting
      (.ok (.delegate ⟨"updateVector", .ofList (("vector", .string key) :: changes)⟩)) := by
  have hrequired : ∀ p ∈ updateVector.definition.parameters, p.required = true →
      p.name = "vector" := by decide
  refine sound_delegate (t := updateVector) (by simp [targets])
    (Args.fit_ofList (by decide) hnodup (fun p hp h => ?_) (List.forall_mem_cons.2 ⟨?_, hdeclared⟩))
  · rw [hrequired p hp h]
    exact List.mem_cons_self
  · exact ⟨rfl, required "vector" .string, by decide, rfl, rfl⟩

theorem sound_editing : ∀ b ∈ editingCommands, b.Sound := by
  simp only [editingCommands, List.forall_mem_cons]
  refine ⟨?_, ?_, ?_, ?_, ?_, ?_, ?_, by simp⟩
  all_goals intro view args h
  · refine sound_bind (h.vector view (by decide)) fun v _ => ?_
    refine sound_bind (h.string? (by decide)) fun name _ => ?_
    iterate 6 refine sound_bind (h.float? (by decide)) fun x _ => ?_
    refine sound_bind (h.mode? (by decide)) fun mode _ => ?_
    refine sound_bind (h.string? (by decide)) fun label _ => ?_
    refine sound_bind (h.color? (by decide)) fun color _ => ?_
    refine sound_bind (h.bool? (by decide)) fun labelled _ => ?_
    refine sound_bind (h.bool? (by decide)) fun visible _ => ?_
    exact sound_bind (h.point? (by decide)) fun scale _ => trivial
  · refine sound_bind (h.string (by decide)) fun old _ => ?_
    refine sound_bind (h.string (by decide)) fun new _ => ?_
    refine sound_updateVector _ (by simp) ?_
    simp only [List.forall_mem_cons]
    exact ⟨⟨rfl, optional "newVectorName" .string, by decide, rfl, rfl⟩, by simp⟩
  · refine sound_bind (h.string (by decide)) fun key _ => ?_
    refine sound_bind (h.string (by decide)) fun mode _ => ?_
    refine sound_updateVector _ (by simp) ?_
    simp only [List.forall_mem_cons]
    exact ⟨⟨rfl, optional "renderMode" .string, by decide, rfl, rfl⟩, by simp⟩
  · refine sound_bind (h.string (by decide)) fun key _ => ?_
    refine sound_bind (h.string (by decide)) fun label _ => ?_
    refine sound_updateVector _ (by simp) ?_
    simp only [List.forall_mem_cons]
    exact ⟨⟨rfl, optional "renderText" .bool, by decide, rfl, rfl⟩,
      ⟨rfl, optional "textToRender" .string, by decide, rfl, rfl⟩, by simp⟩
  · refine sound_bind (h.string (by decide)) fun key _ => ?_
    refine sound_bind (h.bool (by decide)) fun labelled _ => ?_
    refine sound_updateVector _ (by simp) ?_
    simp only [List.forall_mem_cons]
    exact ⟨⟨rfl, optional "renderText" .bool, by decide, rfl, rfl⟩, by simp⟩
  · refine sound_bind (h.matrix view (by decide)) fun m _ => ?_
    refine sound_bind (h.string? (by decide)) fun name _ => ?_
    refine sound_bind (h.string? (by decide)) fun label _ => ?_
    refine sound_bind (h.bool? (by decide)) fun visible _ => ?_
    refine sound_bind (h.bool? (by decide)) fun labelled _ => ?_
    exact sound_bind (h.transform? (by decide)) fun transform _ => trivial
  · refine sound_bind (h.string (by decide)) fun old _ => ?_
    refine sound_bind (h.string (by decide)) fun new _ => ?_
    refine sound_delegate (t := updateMatrix) (by simp [targets])
      (Args.fit_ofList (by decide) (by simp) ?_ ?_)
    · show ∀ p ∈ _, _ → _ ∈ ["oldMatrixName", "newMatrixName"]
      decide
    · simp only [List.forall_mem_cons]
      exact ⟨⟨rfl, required "oldMatrixName" .string, by decide, rfl, rfl⟩,
        ⟨rfl, optional "newMatrixName" .string, by decide, rfl, rfl⟩, by simp⟩

theorem sound_meta : ∀ b ∈ metaCommands, b.Sound ∨ b = runJsonCommandList := by
  simp only [metaCommands, List.forall_mem_cons]
  refine ⟨.inl ?_, .inl ?_, .inl ?_, .inr trivial, .inl ?_, by simp⟩
  all_goals intro view args h
  · exact trivial
  · exact trivial
  · exact trivial
  · exact sound_bind (h.string (by decide)) fun name _ => trivial

/-- **Every built-in command** but the one for command lists reads what its schema declares. -/
theorem all_sound {b : Builtin} (hb : b ∈ Builtin.all)
    (hlist : b.definition.name ≠ "runJsonCommandList") : b.Sound := by
  simp only [Builtin.all, List.mem_append] at hb
  rcases hb with (((((hb | hb) | hb) | hb) | hb) | hb) | hb
  · rcases sound_meta b hb with h | rfl
    · exact h
    · exact absurd rfl hlist
  · exact sound_vectorMath b hb
  · exact sound_editing b hb
  · exact sound_measuring b hb
  · exact sound_matrixMath b hb
  · exact sound_entities b hb
  · exact sound_appearance b hb

theorem sound_targets : ∀ t ∈ targets, t.Sound := by
  simp only [targets, List.forall_mem_cons]
  exact ⟨sound_entities _ (by simp [entitiesCommands]), sound_editing _ (by simp [editingCommands]),
    sound_editing _ (by simp [editingCommands]), by simp⟩

end Builtin

/-! ### Calls -/

/-- No two built-in commands have one name. -/
theorem Builtin.all_names_nodup : (Builtin.all.map (·.definition.name)).Nodup := by decide +kernel

theorem Builtin.eq_of_name {b b' : Builtin} (hb : b ∈ Builtin.all) (hb' : b' ∈ Builtin.all)
    (hname : b.definition.name = b'.definition.name) : b = b' :=
  List.inj_on_of_nodup_map all_names_nodup hb hb' hname

/-- A built-in command stands in the table under its name. -/
theorem Table.builtin_get?_self {b : Builtin} (hb : b ∈ Builtin.all) :
    Table.builtin.get? b.definition.name = some b.command := by
  cases hget : Table.builtin.get? b.definition.name with
  | none =>
    have hmem : b.command ∈ Table.builtin.commands := List.mem_map.2 ⟨b, hb, rfl⟩
    have := List.find?_eq_none.1 hget _ hmem
    exact absurd (beq_self_eq_true _) this
  | some command =>
    obtain ⟨b', hb', rfl, hname⟩ := Table.builtin_get? hget
    rw [Builtin.eq_of_name hb' hb hname]

/-- A fitting plan that runs no other command fails only because a name is taken or not found. -/
theorem Plan.Fitting.perform_error {plan : Plan} (hplan : plan.Fitting)
    (hown : ∀ c, plan ≠ .delegate c) {e : Engine} (he : e.Sane) {depth : Nat} {fault : Error}
    (h : (plan.perform depth e).1 = .error fault) : fault.lookup?.isSome := by
  obtain ⟨vs, -, hvs, -⟩ := he.vectors.rosters
  have hchange : ∀ (c : Change) (w : Workspace), w.scene = e.scene →
      (c.run w).1.mapError Error.scene = .error fault → fault.lookup?.isSome := by
    intro c w hw hc
    cases hrun : (c.run w).1 with
    | ok v => simp [hrun, Except.mapError] at hc
    | error cause =>
      have hlists : w.scene.vectors.Lists vs := hw ▸ hvs
      simp only [hrun, Except.mapError, Except.error.injEq] at hc
      simp [← hc, Error.lookup?, (Change.run_error hlists hrun).1]
  cases plan with
  | answer result => cases h
  | change c => exact hchange c _ rfl h
  | forget result => cases h
  | reset forgets =>
    rw [Plan.perform_reset] at h
    cases forgets with
    | false => exact hchange .reset e.workspace rfl h
    | true => exact hchange .reset e.workspace rfl h
  | delegate c => exact absurd rfl (hown c)
  | replay calls => exact hplan.elim

/-- An error that a call gives back comes from the command, and is no matter of a name. -/
theorem conclude_error {d : Definition} {surface : Bool} {args : Args}
    {result : Except Error Value} {e : Engine} {fault : Error}
    (h : (conclude d surface args result e).1 = .error fault) :
    result = .error fault ∧ fault.lookup? = none := by
  cases result with
  | ok v => cases h
  | error cause =>
    cases hl : cause.lookup? with
    | none =>
      rw [conclude_fault _ _ _ hl] at h
      cases h
      exact ⟨rfl, hl⟩
    | some lookup =>
      rw [conclude_lookup _ _ _ hl] at h
      cases h

/-- A call whose arguments fit gives only errors that a schema does not rule out, if the call that
it makes does. -/
theorem Builtin.Sound.dispatch_error {b : Builtin} (hb : b.Sound) {c : Call}
    (hget : Table.builtin.get? c.name = some b.command)
    (hfit : c.args.Fit b.definition.parameters) {e : Engine} (he : e.Sane) {depth : Nat}
    (hinner : ∀ inner, b.plan e.builtinView c.args.present = .ok (.delegate inner) →
      ∀ fault, (dispatch Table.builtin depth false inner e).1 = .error fault → fault.Residual)
    {surface : Bool} {fault : Error}
    (h : (dispatch Table.builtin (depth + 1) surface c e).1 = .error fault) : fault.Residual := by
  rw [dispatch_builtin hget, hfit.validate] at h
  obtain ⟨h, hl⟩ := conclude_error h
  have hsound := hb e.builtinView c.args.present hfit.present
  unfold Builtin.settle at h
  cases hp : b.plan e.builtinView c.args.present with
  | error cause =>
    rw [hp] at h hsound
    cases h
    rcases hsound with hlookup | hresidual
    · simp [hl] at hlookup
    · exact hresidual
  | ok plan =>
    rw [hp] at h hsound
    by_cases hown : ∃ inner, plan = .delegate inner
    · obtain ⟨inner, rfl⟩ := hown
      exact hinner inner hp fault h
    · have hlookup := Plan.Fitting.perform_error hsound (fun c hc => hown ⟨c, hc⟩) he h
      simp [hl] at hlookup

/-- A target runs no other command. -/
theorem Builtin.target_plan {t : Builtin} (ht : t ∈ Builtin.targets) {e : Engine} (he : e.Sane)
    (args : Args) (inner : Call) : t.plan e.builtinView args ≠ .ok (.delegate inner) := by
  have hview : e.builtinView.Alike (fun _ => True) e.builtinView := ⟨he, rfl⟩
  have hplan := Builtin.targets_plain (C := fun _ => True) (fun _ _ => trivial) t ht hview args
  intro h
  rw [h] at hplan
  cases hplan with
  | ok hlike => cases hlike

/-- **What a call gives**, by the check of its arguments. If the check fails, the call gives back
the fault of the first parameter that has one, and nothing changes. If it succeeds, then neither the
command nor the one that it runs fails on what it reads from its arguments; the errors that can
still come back are those that no schema rules out. -/
theorem dispatch_checked {e : Engine} (he : e.Reachable) {b : Builtin} (hb : b ∈ Builtin.all)
    (hlist : b.definition.name ≠ "runJsonCommandList") (args : Args) (depth : Nat)
    (surface : Bool) :
    (∀ fault, args.validate b.definition.parameters = .error fault →
      dispatch Table.builtin (depth + 2) surface ⟨b.definition.name, args⟩ e = (.error fault, e) ∧
        args.FirstFault b.definition.parameters fault) ∧
    (∀ checked, args.validate b.definition.parameters = .ok checked →
      Sound Plan.Fitting (b.plan e.builtinView checked) ∧
      (∀ inner, b.plan e.builtinView checked = .ok (.delegate inner) → ∃ t ∈ Builtin.targets,
        inner.name = t.definition.name ∧
          inner.args.validate t.definition.parameters = .ok inner.args.present ∧
          Sound Plan.Fitting (t.plan e.builtinView inner.args.present)) ∧
      ∀ fault, (dispatch Table.builtin (depth + 2) surface ⟨b.definition.name, args⟩ e).1 =
        .error fault → fault.Residual) := by
  have hsound := Builtin.all_sound hb hlist
  have hget : Table.builtin.get? b.definition.name = some b.command := Table.builtin_get?_self hb
  refine ⟨fun fault h => ⟨?_, Args.validate_firstFault h⟩, fun checked h => ?_⟩
  · rw [dispatch_builtin hget]
    simp only [h]
  · obtain rfl := validate_ok h
    have hfit := Args.validate_fit h
    have hplan := hsound e.builtinView args.present hfit.present
    have htarget : ∀ inner, b.plan e.builtinView args.present = .ok (.delegate inner) →
        ∃ t ∈ Builtin.targets, inner.name = t.definition.name ∧
          inner.args.Fit t.definition.parameters := by
      intro inner hinner
      rw [hinner] at hplan
      exact hplan
    refine ⟨hplan, fun inner hinner => ?_, fun fault => ?_⟩
    · obtain ⟨t, ht, hname, hinner⟩ := htarget inner hinner
      exact ⟨t, ht, hname, hinner.validate,
        Builtin.sound_targets t ht _ _ hinner.present⟩
    · refine hsound.dispatch_error hget hfit he.sane fun inner hinner => ?_
      obtain ⟨t, ht, hname, hinner⟩ := htarget inner hinner
      intro fault
      refine (Builtin.sound_targets t ht).dispatch_error ?_ hinner he.sane ?_
      · rw [hname]
        exact Table.builtin_get?_target t ht
      · exact fun again hagain => absurd hagain (Builtin.target_plan ht he.sane _ again)

/-- Arguments for a vector without length whose color is 0x1000000. -/
def brightArgs : Args :=
  .ofList [("name", .string "a"), ("startPosition", .list [.int 0, .int 0, .int 0]),
    ("endPosition", .list [.int 0, .int 0, .int 0]), ("color", .int 0x1000000)]

/-- The integer 0x1000000 is an integer, as the schema asks, but no color. -/
theorem dispatch_checked_color :
    let e : Engine := { draws := ⟨fun _ => 0, 0⟩, log := { files := {} } }
    brightArgs.validate Builtin.createVector.definition.parameters = .ok brightArgs.present ∧
      ∃ fault, (dispatch Table.builtin 2 false ⟨"createVector", brightArgs⟩ e).1 = .error fault ∧
        fault.Residual := by
  intro e
  have hchecked : brightArgs.validate Builtin.createVector.definition.parameters =
      .ok brightArgs.present := rfl
  have h := dispatch_checked (.start ⟨fun _ => 0, 0⟩ {}) (b := Builtin.createVector)
    (by simp [Builtin.all, Builtin.entitiesCommands]) (by decide) brightArgs 0 false
  exact ⟨hchecked, _, rfl, (h.2 _ hchecked).2.2 _ rfl⟩

end VectorScene.Command
