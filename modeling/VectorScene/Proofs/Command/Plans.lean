import VectorScene.Command.Builtin
import VectorScene.Proofs.Command.Changes

/-!
# Plans of the built-in commands

A built-in command reads the scene through names, and does not look at handles. So like scenes give
like plans. Most commands settle on an answer or a change of their own; six run one of three others,
and one runs a command list.

## Main definitions

* `View.Alike`: views of like scenes
* `Plan.Like`: plans that run no other command, and do the same
* `Builtin.Plain`: a command that settles on such plans
* `Builtin.composites`, `Builtin.targets`: the commands that run another one, and those that they
  run

## Main results

* `Builtin.plain_or_composite`: a built-in command is plain, runs one that is, or runs a command
  list
* `Builtin.delegates`, `Builtin.targets_plain`: what composites run is plain
-/

namespace VectorScene.Command

open VectorScene.Geometry Scene

variable {C : Color → Prop}

/-! ### Views of like scenes -/

/-- Views of like scenes; the histories may differ. -/
structure View.Alike (C : Color → Prop) (view view' : View) : Prop where
  scene : view.scene.Alike C view'.scene
  definitions : view.definitions = view'.definitions

theorem vector_eq_of_bare {v v' : Scene.Vector} (h : Outlined.bare v = Outlined.bare v') :
    v' = { v with handle := v'.handle } := by
  have hbare : v.bare = v'.bare := h
  have hset := congrArg (fun x : Scene.Vector => { x with handle := v'.handle }) hbare
  exact hset.symm

theorem matrix_eq_of_bare {m m' : Scene.Matrix} (h : Outlined.bare m = Outlined.bare m') :
    m' = { m with handle := m'.handle, basis := m'.basis } := by
  have hbare : m.bare = m'.bare := h
  have hset := congrArg
    (fun x : Scene.Matrix => { x with handle := m'.handle, basis := m'.basis }) hbare
  exact hset.symm

namespace View.Alike

variable {view view' : View} {γ δ : Type} {S : γ → δ → Prop}

/-- A vector that an argument names is the same in both views but for its handle. -/
theorem bind_vector (h : view.Alike C view') (args : Args) (key : String)
    {f : Scene.Vector → Except Error γ} {g : Scene.Vector → Except Error δ}
    (hfg : ∀ v handle, C v.color → Agree S (f v) (g { v with handle })) :
    Agree S (view.vector args key >>= f) (view'.vector args key >>= g) := by
  unfold View.vector
  refine Agree.bind ?_ (R := fun v v' => v' = { v with handle := v'.handle } ∧ C v.color) ?_
  · refine Agree.bind_same fun name => ?_
    rcases h.scene.vectors.get? name with ⟨hv, hv'⟩ | ⟨v, v', hv, hv', hbare, hcolor, -⟩
    · simp only [Registry.require, hv, hv']
      exact .error _
    · simp only [Registry.require, hv, hv']
      exact .ok ⟨vector_eq_of_bare hbare, hcolor⟩
  · rintro v v' ⟨hv', hcolor⟩
    rw [hv']
    exact hfg v v'.handle hcolor

/-- A matrix that an argument names is the same in both views but for its handles. -/
theorem bind_matrix (h : view.Alike C view') (args : Args) (key : String)
    {f : Scene.Matrix → Except Error γ} {g : Scene.Matrix → Except Error δ}
    (hfg : ∀ m handle basis, Agree S (f m) (g { m with handle, basis })) :
    Agree S (view.matrix args key >>= f) (view'.matrix args key >>= g) := by
  unfold View.matrix
  refine Agree.bind ?_
    (R := fun m m' => m' = { m with handle := m'.handle, basis := m'.basis }) ?_
  · refine Agree.bind_same fun name => ?_
    rcases h.scene.matrices.get? name with ⟨hm, hm'⟩ | ⟨m, m', hm, hm', hbare, -⟩
    · simp only [Registry.require, hm, hm']
      exact .error _
    · simp only [Registry.require, hm, hm']
      exact .ok (matrix_eq_of_bare hbare)
  · intro m m' hm'
    rw [hm']
    exact hfg m m'.handle m'.basis

end View.Alike

/-! ### Plain commands -/

/-- A call that is to clear the history. -/
def Call.Forgets (c : Call) : Prop :=
  c.name = "clearCommandHistory" ∨
    c.name = "resetScene" ∧ c.args.get? "resetCommandHistory" = some (.bool true)

/-- Plans that run no other command and do the same, with colors of some kind; answers may differ,
and the history is cleared under a condition only. -/
inductive Plan.Like (C : Color → Prop) (Forgets : Prop) : Plan → Plan → Prop where
  | answer (result result' : Value) : Like C Forgets (.answer result) (.answer result')
  | change {change : Change} : change.Colored C →
    Like C Forgets (.change change) (.change change)
  | forget (result : Value) : Forgets → Like C Forgets (.forget result) (.forget result)
  | reset (forgets : Bool) : (forgets → Forgets) →
    Like C Forgets (.reset forgets) (.reset forgets)

/-- A command that settles on like plans in like scenes, runs no other command, and clears the
history only if it is to. -/
def Builtin.Plain (C : Color → Prop) (b : Builtin) : Prop :=
  ∀ ⦃view view' : View⦄, view.Alike C view' → ∀ args,
    Agree (Plan.Like C (Call.Forgets ⟨b.definition.name, args⟩)) (b.plan view args)
      (b.plan view' args)

/-- If a step gives a result, it is of some kind. -/
def Gives {ε α : Type} (P : α → Prop) (x : Except ε α) : Prop := ∀ a, x = .ok a → P a

theorem Agree.bind_of {ε α γ δ : Type} {S : γ → δ → Prop} {P : α → Prop} {x : Except ε α}
    (hx : Gives P x) {f : α → Except ε γ} {g : α → Except ε δ}
    (hfg : ∀ a, P a → Agree S (f a) (g a)) : Agree S (x >>= f) (x >>= g) := by
  cases x with
  | ok a => exact hfg a (hx a rfl)
  | error fault => exact .error fault

/-- A color that is given as an argument has 24 bits. -/
theorem Args.color?_gives (args : Args) :
    Gives (fun o => ∀ c ∈ o, c ≤ Color.limit) args.color? := by
  intro o ho c hc
  simp only [Args.color?, bind, Except.bind] at ho
  cases hi : args.int? "color" with
  | error fault => simp [hi] at ho
  | ok chosen =>
    cases chosen with
    | none =>
      simp only [hi, pure, Except.pure, Except.ok.injEq] at ho
      exact absurd hc (by simp [← ho])
    | some i =>
      simp only [hi] at ho
      split at ho
      · rename_i hrange
        simp only [pure, Except.pure, Except.ok.injEq] at ho
        rw [← ho, Option.mem_some_iff] at hc
        have hle : i.toInt.toNat ≤ Color.limit.toNat := by omega
        have hlt : i.toInt.toNat < UInt32.size :=
          Nat.lt_of_le_of_lt hle (by decide)
        rw [← hc, UInt32.le_iff_toNat_le, UInt32.toNat_ofNat_of_lt' hlt]
        exact hle
      · cases ho

theorem Args.bool?_gives {args : Args} {name : String} :
    Gives (fun o => ∀ b, o = some b → args.get? name = some (.bool b)) (args.bool? name) := by
  rintro _ ho b rfl
  rw [Args.bool?, Args.typed] at ho
  cases hv : args.get? name with
  | none => simp [hv] at ho
  | some v =>
    cases v with
    | bool b' =>
      simp only [hv, Value.toBool?, Except.ok.injEq, Option.some.injEq] at ho
      rw [ho]
    | _ => simp [hv, Value.toBool?] at ho

namespace Builtin

variable {view view' : View}

theorem plain_vectorMath : ∀ b ∈ vectorMathCommands, b.Plain C := by
  simp only [vectorMathCommands, List.forall_mem_cons]
  refine ⟨?_, ?_, ?_, ?_, ?_, ?_, ?_, ?_, ?_, ?_, ?_, ?_, ?_, ?_, ?_, ?_, by simp⟩
  all_goals
    intro view view' h args
    repeat first
      | refine h.bind_vector args _ fun v handle hv => ?_
      | refine h.bind_matrix args _ fun m handle basis => ?_
      | refine Agree.bind_same fun _ => ?_
  -- the color of `normalizeVector` is that of the vector; the other commands choose none
  · exact .ok (.change fun c hc => by cases hc; exact hv)
  · exact .ok (.change nofun)
  · exact .ok (.change nofun)
  · exact .ok (.change nofun)
  · exact .ok (.change nofun)
  · exact .ok (.change nofun)
  · exact .ok (.change nofun)
  · exact .ok (.change nofun)
  · exact .ok (.change nofun)
  · exact .ok (.change nofun)
  · exact .ok (.change nofun)
  · exact .ok (.change nofun)
  · cases Frame.ofForward? v.tip none with
    | none => exact .error _
    | some axis =>
      refine .ok (.change ?_)
      simp only [Change.Colored, List.forall_mem_cons]
      exact ⟨nofun, nofun, by simp⟩
  · exact .ok (.change nofun)
  · exact .ok (.change nofun)
  · exact .ok (.change nofun)

theorem plain_matrixMath (hlimit : ∀ c ≤ Color.limit, C c) :
    ∀ b ∈ matrixMathCommands, b.Plain C := by
  simp only [matrixMathCommands, List.forall_mem_cons]
  refine ⟨?_, ?_, ?_, ?_, ?_, ?_, ?_, ?_, ?_, ?_, by simp⟩
  all_goals
    intro view view' h args
    repeat first
      | refine h.bind_matrix args _ fun m handle basis => ?_
      | refine Agree.bind_same fun _ => ?_
  · exact .ok (.change trivial)
  · exact .ok (.change trivial)
  · exact .ok (.change trivial)
  · exact .ok (.change trivial)
  · exact .ok (.change trivial)
  · exact .ok (.change trivial)
  · cases m.transform.inverse? with
    | none => exact .error _
    | some inverse => exact .ok (.change trivial)
  · exact .ok (.change trivial)
  · exact .ok (.change nofun)
  · refine .ok (.change ?_)
    simp only [Change.Colored, List.forall_mem_cons]
    refine ⟨?_, ?_, ?_, by simp⟩ <;> (intro c hc; cases hc; exact hlimit _ (by decide))

theorem plain_measuring : ∀ b ∈ measuringCommands, b.Plain C := by
  simp only [measuringCommands, List.forall_mem_cons]
  refine ⟨?_, ?_, ?_, ?_, ?_, by simp⟩
  all_goals intro view view' h args
  · refine h.bind_vector args _ fun a _ _ => h.bind_vector args _ fun b _ _ => ?_
    exact .ok (.answer _ _)
  · refine h.bind_vector args _ fun a _ _ => h.bind_vector args _ fun b _ _ => ?_
    exact .ok (.answer _ _)
  · refine h.bind_vector args _ fun a _ _ => h.bind_vector args _ fun b _ _ => ?_
    simp only [Scene.Vector.displacement]
    cases angleBetween? (a.tip - a.start) (b.tip - b.start) with
    | none => exact .ok (.answer _ _)
    | some angle => exact Agree.bind_same fun _ => .ok (.answer _ _)
  · exact Agree.bind_same fun _ => .ok (.answer _ _)
  · exact Agree.bind_same fun _ => .ok (.answer _ _)

theorem plain_appearance : ∀ b ∈ appearanceCommands, b.Plain C := by
  simp only [appearanceCommands, List.forall_mem_cons]
  refine ⟨?_, ?_, ?_, ?_, ?_, ?_, by simp⟩
  all_goals
    intro view view' h args
    have hcamera := h.scene.camera
    have hsettings := h.scene.settings
  · refine Agree.bind_same fun degrees => ?_
    simp only [hcamera]
    exact .ok (.change trivial)
  · refine h.bind_vector args _ fun v _ _ => ?_
    simp only [hcamera]
    exact .ok (.change trivial)
  · refine Agree.bind_same fun on => ?_
    simp only [hcamera]
    exact .ok (.change trivial)
  · refine Agree.bind_same fun name => ?_
    simp only [hsettings]
    cases args.get? "value" with
    | none => exact .error _
    | some value => exact Agree.bind_same fun settings => .ok (.change trivial)
  · refine Agree.bind_same fun name => ?_
    simp only [hsettings]
    exact Agree.bind_same fun d => .ok (.answer _ _)
  · exact .ok (.change trivial)

theorem plain_entities (hlimit : ∀ c ≤ Color.limit, C c) :
    ∀ b ∈ entitiesCommands, b.Plain C ∨ b = duplicateVector := by
  simp only [entitiesCommands, List.forall_mem_cons]
  refine ⟨.inl ?_, .inl ?_, .inl ?_, .inl ?_, .inl ?_, .inl ?_, .inl ?_, .inl ?_, .inr trivial,
    .inl ?_, .inl ?_, .inl ?_, .inl ?_, .inl ?_, .inl ?_, .inl ?_, .inl ?_, .inl ?_, .inl ?_,
    .inl ?_, .inl ?_, .inl ?_, .inl ?_, .inl ?_, by simp⟩
  all_goals intro view view' h args
  -- listing and dumping
  · exact .ok (.answer _ _)
  · exact .ok (.answer _ _)
  · exact h.bind_vector args _ fun v _ _ => .ok (.answer _ _)
  · exact h.bind_vector args _ fun v _ _ => .ok (.answer _ _)
  · exact h.bind_matrix args _ fun m _ _ => .ok (.answer _ _)
  -- vectors
  · refine Agree.bind_same fun mode => Agree.bind_of args.color?_gives fun color hcolor => ?_
    iterate 7 refine Agree.bind_same fun _ => ?_
    exact .ok (.change fun c hc => hlimit c (hcolor c hc))
  · refine Agree.bind_same fun name => Agree.bind_same fun tip => ?_
    exact .ok (.change nofun)
  · refine Agree.bind_same fun name => Agree.bind_same fun direction => ?_
    exact Agree.bind_same fun magnitude => .ok (.change nofun)
  · iterate 4 refine Agree.bind_same fun _ => ?_
    exact .ok (.change trivial)
  -- taking away and showing
  · exact Agree.bind_same fun key => .ok (.change trivial)
  · exact Agree.bind_same fun key => .ok (.change trivial)
  · exact Agree.bind_same fun key => Agree.bind_same fun visible => .ok (.change trivial)
  · exact Agree.bind_same fun key => Agree.bind_same fun visible => .ok (.change trivial)
  -- matrices
  · exact Agree.bind_same fun name => Agree.bind_same fun transform => .ok (.change trivial)
  · exact Agree.bind_same fun name => .ok (.change trivial)
  · exact Agree.bind_same fun angle => Agree.bind_same fun name => .ok (.change trivial)
  · exact Agree.bind_same fun angle => Agree.bind_same fun name => .ok (.change trivial)
  · exact Agree.bind_same fun angle => Agree.bind_same fun name => .ok (.change trivial)
  · exact Agree.bind_same fun name => Agree.bind_same fun scale => .ok (.change trivial)
  · exact Agree.bind_same fun name => Agree.bind_same fun place => .ok (.change trivial)
  · refine h.bind_vector args _ fun v _ _ => ?_
    cases Frame.ofForward? v.tip (some v.start) with
    | none => exact .error _
    | some frame => exact Agree.bind_same fun name => .ok (.change trivial)
  -- the whole scene
  · exact .ok (.change trivial)
  · refine Agree.bind_of args.bool?_gives fun forgets hforgets => .ok (.reset _ fun h => ?_)
    cases forgets with
    | none => cases h
    | some b => exact .inr ⟨rfl, (show b = true from h) ▸ hforgets b rfl⟩

/-! ### Commands that run other commands -/

/-- The commands that run one other command. -/
def composites : List Builtin :=
  [duplicateVector, renameVector, setVectorRenderMode, setVectorDisplayText,
    showVectorDisplayText, renameMatrix]

/-- The commands that composites run. -/
def targets : List Builtin := [createVector, updateVector, updateMatrix]

/-- Both plans are to run the same command, which is a target. -/
def Delegates (p p' : Plan) : Prop :=
  ∃ b ∈ targets, ∃ args, p = .delegate ⟨b.definition.name, args⟩ ∧
    p' = .delegate ⟨b.definition.name, args⟩

theorem plain_editing (hlimit : ∀ c ≤ Color.limit, C c) :
    ∀ b ∈ editingCommands, b.Plain C ∨ b ∈ composites := by
  simp only [editingCommands, composites, List.forall_mem_cons]
  refine ⟨.inl ?_, .inr (by simp), .inr (by simp), .inr (by simp), .inr (by simp), .inl ?_,
    .inr (by simp), by simp⟩
  all_goals intro view view' h args
  · refine h.bind_vector args _ fun v handle hv => ?_
    iterate 9 refine Agree.bind_same fun _ => ?_
    refine Agree.bind_of args.color?_gives fun color hcolor => ?_
    iterate 3 refine Agree.bind_same fun _ => ?_
    refine .ok (.change fun c hc => ?_)
    cases hc
    cases color with
    | none => exact hv
    | some chosen => exact hlimit chosen (hcolor chosen rfl)
  · refine h.bind_matrix args _ fun m handle basis => ?_
    iterate 5 refine Agree.bind_same fun _ => ?_
    exact .ok (.change trivial)

theorem plain_meta : ∀ b ∈ metaCommands, b.Plain C ∨ b = runJsonCommandList := by
  simp only [metaCommands, List.forall_mem_cons]
  refine ⟨.inl ?_, .inl ?_, .inl ?_, .inr trivial, .inl ?_, by simp⟩
  all_goals intro view view' h args
  · exact .ok (.answer _ _)
  · exact .ok (.answer _ _)
  · exact .ok (.forget _ (.inl rfl))
  · exact Agree.bind_same fun name => .ok (.answer _ _)

theorem delegates :
    ∀ b ∈ composites, ∀ {view view' : View}, view.Alike C view' → ∀ args,
      Agree Delegates (b.plan view args) (b.plan view' args) := by
  simp only [composites, List.forall_mem_cons]
  refine ⟨?_, ?_, ?_, ?_, ?_, ?_, by simp⟩
  all_goals intro view view' h args
  · refine h.bind_vector args _ fun v handle hv => Agree.bind_same fun name => ?_
    exact .ok ⟨createVector, by simp [targets], _, rfl, rfl⟩
  all_goals
    refine Agree.bind_same fun first => Agree.bind_same fun second => ?_
  · exact .ok ⟨updateVector, by simp [targets], _, rfl, rfl⟩
  · exact .ok ⟨updateVector, by simp [targets], _, rfl, rfl⟩
  · exact .ok ⟨updateVector, by simp [targets], _, rfl, rfl⟩
  · exact .ok ⟨updateVector, by simp [targets], _, rfl, rfl⟩
  · exact .ok ⟨updateMatrix, by simp [targets], _, rfl, rfl⟩

/-- A composite fails, or runs another command. -/
theorem composite_plan {b : Builtin} (hb : b ∈ composites) {view : View} (h : view.Alike C view)
    (args : Args) :
    (∃ fault, b.plan view args = .error fault) ∨
      ∃ t ∈ targets, ∃ targs, b.plan view args = .ok (.delegate ⟨t.definition.name, targs⟩) := by
  have hplan := delegates b hb h args
  cases hp : b.plan view args with
  | error fault => exact .inl ⟨fault, rfl⟩
  | ok plan =>
    rw [hp] at hplan
    cases hplan with
    | ok hdelegates =>
      obtain ⟨t, ht, targs, rfl, -⟩ := hdelegates
      exact .inr ⟨t, ht, targs, rfl⟩

/-- **Every built-in command** is plain, or runs one that is, or runs a command list. -/
theorem plain_or_composite (hlimit : ∀ c ≤ Color.limit, C c) {b : Builtin} (hb : b ∈ Builtin.all) :
    b.Plain C ∨ b ∈ composites ∨ b = runJsonCommandList := by
  simp only [Builtin.all, List.mem_append] at hb
  rcases hb with (((((hb | hb) | hb) | hb) | hb) | hb) | hb
  · rcases plain_meta b hb with h | h
    · exact .inl h
    · exact .inr (.inr h)
  · exact .inl (plain_vectorMath b hb)
  · rcases plain_editing hlimit b hb with h | h
    · exact .inl h
    · exact .inr (.inl h)
  · exact .inl (plain_measuring b hb)
  · exact .inl (plain_matrixMath hlimit b hb)
  · rcases plain_entities hlimit b hb with h | rfl
    · exact .inl h
    · exact .inr (.inl (by simp [composites]))
  · exact .inl (plain_appearance b hb)

theorem targets_plain (hlimit : ∀ c ≤ Color.limit, C c) : ∀ b ∈ targets, b.Plain C := by
  -- they stand in the lists of the other commands, and differ from composites in their names
  have hnames : ∀ b ∈ composites, b.definition.name ≠ "updateVector" ∧
      b.definition.name ≠ "updateMatrix" := by
    simp only [composites, List.forall_mem_cons]
    refine ⟨?_, ?_, ?_, ?_, ?_, ?_, by simp⟩ <;> decide
  simp only [targets, List.forall_mem_cons]
  refine ⟨?_, ?_, ?_, by simp⟩
  · rcases plain_entities hlimit createVector (by simp [entitiesCommands]) with h | h
    · exact h
    · exact absurd (congrArg (·.definition.name) h) (by decide)
  · rcases plain_editing hlimit updateVector (by simp [editingCommands]) with h | h
    · exact h
    · exact absurd rfl (hnames _ h).1
  · rcases plain_editing hlimit updateMatrix (by simp [editingCommands]) with h | h
    · exact h
    · exact absurd rfl (hnames _ h).2

end Builtin

/-! ### The table -/

namespace Table

theorem builtin_get? {name : String} {command : VectorScene.Command}
    (h : Table.builtin.get? name = some command) :
    ∃ b ∈ Builtin.all, command = b.command ∧ b.definition.name = name := by
  have hmem : command ∈ Builtin.all.map Builtin.command := List.mem_of_find?_eq_some h
  have hname : command.name = name := by simpa using List.find?_some h
  obtain ⟨b, hb, rfl⟩ := List.mem_map.1 hmem
  exact ⟨b, hb, rfl, hname⟩

/-- The commands that composites run are in the table. -/
theorem builtin_get?_target :
    ∀ b ∈ Builtin.targets, Table.builtin.get? b.definition.name = some b.command := by
  simp only [Builtin.targets, List.forall_mem_cons]
  exact ⟨rfl, rfl, rfl, by simp⟩

end Table

end VectorScene.Command
