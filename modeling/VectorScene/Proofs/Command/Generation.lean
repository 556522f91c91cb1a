import VectorScene.Proofs.Command.Arguments
import VectorScene.Proofs.Command.Failure
import VectorScene.Proofs.Command.Yields

/-!
# Commands that make entities under generated names

Commands that calculate leave what they read as it is: the results are new entities under the next
generated names, which stand behind those that were there. Taking them away by their names gives
back both registries.

## Main definitions

* `Ends`: a plan that is to make what is said, or misses something that it reads
* `Builtin.makers`: the commands that make something under generated names, and what
* `Yield.Adds`: the scene has what was made behind what was there, and is as before otherwise
* `Yield.Spares`: nothing was made

## Main results

* `Builtin.makers_yield`: the plans of the commands
* `Builtin.Yields.dispatch_cases`: the three ends of a call
* `dispatch_adds`: a call of one of the commands
-/

namespace VectorScene.Command

open Scene

/-! ### Plans -/

/-- Something is wrong with an argument, or an entity is not found. No name is taken. -/
def Error.Misses (fault : Error) : Prop :=
  ∀ lookup, fault.lookup? = some lookup → ∃ kind key, lookup = .notFound kind key

/-- What is read may be missing. -/
def Misses {α : Type} (x : Except Error α) : Prop := ∀ fault, x = .error fault → fault.Misses

section Misses

variable {α β : Type}

theorem Error.misses_of_none {fault : Error} (h : fault.lookup? = none) : fault.Misses := by
  intro lookup hlookup
  rw [h] at hlookup
  cases hlookup

theorem misses_ok (a : α) : Misses (.ok a) := nofun

theorem misses_error {fault : Error} (h : fault.Misses) :
    Misses (.error fault : Except Error α) := by
  rintro _ ⟨⟩
  exact h

theorem misses_bind {x : Except Error α} {f : α → Except Error β} (hx : Misses x)
    (hf : ∀ a, Misses (f a)) : Misses (x >>= f) := by
  cases x with
  | error fault => exact misses_error (hx fault rfl)
  | ok a => exact hf a

theorem misses_typed (args : Args) (type : ArgType) (read : Value → Option α) (name : String) :
    Misses (args.typed type read name) := by
  unfold Args.typed
  split
  · exact misses_ok _
  · split
    · exact misses_ok _
    · exact misses_error (Error.misses_of_none rfl)

theorem misses_needed {x : Except Error (Option α)} (hx : Misses x) (name : String) :
    Misses (Args.needed name x) := by
  cases x with
  | error fault => exact misses_error (hx fault rfl)
  | ok a =>
    cases a with
    | none => exact misses_error (Error.misses_of_none rfl)
    | some a => exact misses_ok a

theorem misses_require [Entity α] (r : Registry α) (key : String) :
    Misses ((r.require key).mapError Error.scene) := by
  unfold Registry.require
  cases r.get? key with
  | some e => exact misses_ok e
  | none =>
    refine misses_error fun lookup hlookup => ⟨Entity.kind α, key, ?_⟩
    exact (Option.some.inj hlookup).symm

variable (view : View) (args : Args) (name : String)

@[simp] theorem misses_bool? : Misses (args.bool? name) := misses_typed _ _ _ _

@[simp] theorem misses_bool : Misses (args.bool name) := misses_needed (misses_typed _ _ _ _) name

@[simp] theorem misses_float : Misses (args.float name) := misses_needed (misses_typed _ _ _ _) name

@[simp] theorem misses_int : Misses (args.int name) := misses_needed (misses_typed _ _ _ _) name

@[simp] theorem misses_point : Misses (args.point name) := misses_needed (misses_typed _ _ _ _) name

@[simp] theorem misses_vector : Misses (view.vector args name) :=
  misses_bind (misses_needed (misses_typed _ _ _ _) name) fun _ => misses_require _ _

@[simp] theorem misses_matrix : Misses (view.matrix args name) :=
  misses_bind (misses_needed (misses_typed _ _ _ _) name) fun _ => misses_require _ _

@[simp] theorem misses_angle : Misses (args.angle name) := by
  refine misses_bind (misses_float args _) fun angle => ?_
  refine misses_bind (misses_bool? args name) fun inDegrees => ?_
  split
  · exact misses_ok _
  · exact misses_ok _

@[simp] theorem misses_mode? : Misses (args.mode? name) := by
  refine misses_bind (misses_typed _ _ _ _) fun text => ?_
  cases text with
  | none => exact misses_ok _
  | some text =>
    simp only
    cases RenderMode.ofName? text with
    | some mode => exact misses_ok _
    | none => exact misses_error (Error.misses_of_none rfl)

end Misses

/-- A plan is to make what is said, or something that it reads is missing. -/
def Ends (y : Yield) (x : Except Error Plan) : Prop :=
  match x with
  | .ok plan => ∃ change, plan = .change change ∧ change.yield? = some y
  | .error fault => fault.Misses

section Ends

variable {y : Yield}

theorem ends_bind {α : Type} {x : Except Error α} {f : α → Except Error Plan} (hx : Misses x)
    (hf : ∀ a, x = .ok a → Ends y (f a)) : Ends y (x >>= f) := by
  cases x with
  | error fault => exact hx fault rfl
  | ok a => exact hf a rfl

theorem ends_change {change : Change} (h : change.yield? = some y) :
    Ends y (.ok (.change change)) := ⟨change, rfl, h⟩

theorem ends_error {fault : Error} (h : fault.lookup? = none) : Ends y (.error fault) :=
  Error.misses_of_none h

theorem Ends.ok {x : Except Error Plan} {plan : Plan} (h : Ends y x) (hx : x = .ok plan) :
    ∃ change, plan = .change change ∧ change.yield? = some y := by
  rw [hx] at h
  exact h

theorem Ends.error {x : Except Error Plan} {fault : Error} (h : Ends y x)
    (hx : x = .error fault) : fault.Misses := by
  rw [hx] at h
  exact h

end Ends

/-! ### Commands -/

namespace Builtin

/-- The commands that make one vector under a generated name. -/
def vectorMakers : List Builtin :=
  [addVectors, subtractVectors, scaleVector, crossProduct, projectVector, reflectVector,
    negateVector, translateVector, translateVectorToPoint, moveVector, lerpVector,
    multiplyVectorByMatrix, distanceBetweenVectors, angleBetweenVectors,
    extractPositionVectorFromMatrix]

/-- The commands that make one matrix under a generated name. -/
def matrixMakers : List Builtin :=
  [multiplyMatrices, rotateMatrixAboutLeftAxis, rotateMatrixAboutUpAxis,
    rotateMatrixAboutForwardAxis, translateMatrix, scaleMatrix, invertMatrix, transposeMatrix]

/-- How many random vectors are asked for. -/
def randomCount (args : Args) : Nat :=
  match args.int "count" with
  | .ok count => count.toInt.toNat
  | .error _ => 0

/-- The commands that make something under generated names, and what they make. -/
def makers : List (Builtin × (Args → Yield)) :=
  vectorMakers.map (fun b => (b, fun _ => .one .vector)) ++
    matrixMakers.map (fun b => (b, fun _ => .one .matrix)) ++
    [(createAxisFromVector, fun _ => .several .results 2),
      (extractVectorsFromMatrix, fun _ => .several .results 3),
      (createRandomVector, fun args => .several .randoms (randomCount args))]

/-- A command whose plans make what is said, or miss something. -/
def Yields (b : Builtin) (y : Args → Yield) : Prop :=
  ∀ view args, Ends (y args) (b.plan view args)

theorem vectorMakers_yield : ∀ b ∈ vectorMakers, b.Yields fun _ => .one .vector := by
  -- each plan reads what it needs, which may fail, and ends in the change that makes a vector
  simp only [vectorMakers, List.forall_mem_cons]
  refine ⟨?_, ?_, ?_, ?_, ?_, ?_, ?_, ?_, ?_, ?_, ?_, ?_, ?_, ?_, ?_, by simp⟩
  all_goals
    intro view args
    repeat refine ends_bind (by simp) fun _ _ => ?_
    exact ends_change rfl

theorem matrixMakers_yield : ∀ b ∈ matrixMakers, b.Yields fun _ => .one .matrix := by
  simp only [matrixMakers, List.forall_mem_cons]
  refine ⟨?_, ?_, ?_, ?_, ?_, ?_, ?_, ?_, by simp⟩
  all_goals
    intro view args
    refine ends_bind (by simp) fun m _ => ?_
  · exact ends_bind (by simp) fun _ _ => ends_change rfl
  · exact ends_bind (by simp) fun _ _ => ends_change rfl
  · exact ends_bind (by simp) fun _ _ => ends_change rfl
  · exact ends_bind (by simp) fun _ _ => ends_change rfl
  · exact ends_bind (by simp) fun _ _ => ends_change rfl
  · exact ends_bind (by simp) fun _ _ => ends_change rfl
  · -- a matrix may have no inverse
    cases m.transform.inverse? with
    | none => exact ends_error rfl
    | some inverse => exact ends_change rfl
  · exact ends_change rfl

/-- **The plans** of the commands that make something. -/
theorem makers_yield {b : Builtin} {y : Args → Yield} (h : (b, y) ∈ makers) : b.Yields y := by
  simp only [makers, List.mem_append, List.mem_map, Prod.mk.injEq, List.mem_cons,
    List.not_mem_nil, or_false] at h
  rcases h with (⟨b, hb, rfl, rfl⟩ | ⟨b, hb, rfl, rfl⟩) | ⟨rfl, rfl⟩ | ⟨rfl, rfl⟩ | ⟨rfl, rfl⟩
  · exact vectorMakers_yield b hb
  · exact matrixMakers_yield b hb
  · intro view args
    refine ends_bind (by simp) fun v _ => ?_
    cases Geometry.Frame.ofForward? v.tip none with
    | none => exact ends_error rfl
    | some axis => exact ends_change rfl
  · intro view args
    exact ends_bind (by simp) fun m _ => ends_change rfl
  · intro view args
    refine ends_bind (by simp) fun count hcount => ?_
    repeat refine ends_bind (by simp) fun _ _ => ?_
    refine ends_change ?_
    simp only [Change.yield?, randomCount, hcount]

/-- The commands that make something are in the table. -/
theorem makers_get? {b : Builtin} {y : Args → Yield} (h : (b, y) ∈ makers) :
    Table.builtin.get? b.definition.name = some b.command := by
  have hall : ∀ b ∈ makers.map (·.1), Table.builtin.get? b.definition.name = some b.command := by
    simp only [makers, vectorMakers, matrixMakers, List.map_cons, List.map_nil,
      List.cons_append, List.nil_append, List.forall_mem_cons]
    exact ⟨rfl, rfl, rfl, rfl, rfl, rfl, rfl, rfl, rfl, rfl, rfl, rfl, rfl, rfl, rfl, rfl, rfl, rfl,
      rfl, rfl, rfl, rfl, rfl, rfl, rfl, rfl, by simp⟩
  exact hall b (List.mem_map.2 ⟨(b, y), h, rfl⟩)

/-- How many vectors are asked for does not depend on arguments that are absent. -/
theorem makers_present {b : Builtin} {y : Args → Yield} (h : (b, y) ∈ makers) (args : Args) :
    y args.present = y args := by
  simp only [makers, List.mem_append, List.mem_map, Prod.mk.injEq, List.mem_cons,
    List.not_mem_nil, or_false] at h
  rcases h with (⟨b, hb, rfl, rfl⟩ | ⟨b, hb, rfl, rfl⟩) | ⟨rfl, rfl⟩ | ⟨rfl, rfl⟩ | ⟨rfl, rfl⟩
  · rfl
  · rfl
  · rfl
  · rfl
  · simp only [randomCount, Args.int, Args.int?, Args.typed, Args.get?_present]

section Settle

variable {b : Builtin} {y : Args → Yield} {e : Engine}

/-- A command that makes something fails before it changes anything, or finds a name taken, or makes
everything. -/
theorem Yields.settle_cases (hb : b.Yields y) {vs : List Scene.Vector} {ms : List Scene.Matrix}
    (hvs : e.scene.vectors.Lists vs) (hms : e.scene.matrices.Lists ms) (depth : Nat)
    (args : Args) :
    (∃ fault, b.settle depth args e = (.error fault, e) ∧ fault.Misses) ∨
    (∃ name, (y args).taken? e.scene = some name ∧
      (b.settle depth args e).1 = .error (.scene (.duplicateName (y args).kind name)) ∧
      (b.settle depth args e).2.scene = (y args).advance e.scene) ∨
    ((y args).taken? e.scene = none ∧
      (b.settle depth args e).1 = .ok ((y args).value e.scene) ∧
      (y args).Grows e.scene (b.settle depth args e).2.scene) := by
  unfold settle
  cases hp : b.plan e.builtinView args with
  | error fault => exact .inl ⟨fault, rfl, (hb e.builtinView args).error hp⟩
  | ok plan =>
    right
    obtain ⟨change, rfl, hy⟩ := (hb e.builtinView args).ok hp
    have hrun := Change.run_yield (w := e.workspace) hvs hms hy
    have hscene : e.workspace.scene = e.scene := rfl
    rw [hscene] at hrun
    simp only [Plan.perform_change]
    cases htaken : (y args).taken? e.scene with
    | some name =>
      rw [htaken] at hrun
      obtain ⟨hfault, hspent⟩ := hrun
      exact .inl ⟨name, rfl, by rw [hfault]; rfl, hspent⟩
    | none =>
      rw [htaken] at hrun
      obtain ⟨hvalue, hgrows⟩ := hrun
      exact .inr ⟨rfl, by rw [hvalue]; rfl, hgrows⟩

/-- It recovers if it fails because a name is taken or not found. -/
theorem Yields.recovers_iff (hb : b.Yields y) {c : Call}
    (hget : Table.builtin.get? c.name = some b.command) {args : Args}
    (hv : c.args.validate b.definition.parameters = .ok args) (depth : Nat) :
    recovers Table.builtin (depth + 1) c e ↔
      ∃ fault, (b.settle depth args e).1 = .error fault ∧ fault.lookup?.isSome := by
  rw [recovers_builtin hget]
  simp only [hv, Except.ok.injEq, exists_eq_left']
  unfold settle
  cases hp : b.plan e.builtinView args with
  | error fault => simp
  | ok plan =>
    obtain ⟨change, rfl, -⟩ := (hb e.builtinView args).ok hp
    exact Plan.recovers_change

end Settle

end Builtin

/-! ### Taking away what was made -/

/-- The call that takes away the entity of a name. -/
def destroyCall : Kind → String → Call
  | .vector, name => ⟨"destroyVector", .ofList [("vector", .string name)]⟩
  | .matrix, name => ⟨"destroyMatrix", .ofList [("matrix", .string name)]⟩

namespace Engine

variable {e : Engine}

/-- A call of a command that settles on a change which succeeds. -/
theorem call_change {b : Builtin} {c : Call} (hget : Table.builtin.get? c.name = some b.command)
    {args : Args} (hv : c.args.validate b.definition.parameters = .ok args) {change : Change}
    (hplan : b.plan e.builtinView args = .ok (.change change)) {v : Value} {w : Workspace}
    (hrun : change.run e.workspace = (.ok v, w)) (surface : Bool) :
    ∃ e', e.call Table.builtin surface c = (.ok v, e') ∧ e'.workspace = w := by
  have hsettle : ∀ depth, b.settle depth args e = (.ok v, e.withWorkspace w) := by
    intro depth
    rw [Builtin.settle, hplan]
    simp only [Plan.perform_change, hrun]
    rfl
  refine ⟨(e.withWorkspace w).record b.definition surface args v, ?_, ?_⟩
  · rw [call, nestingLimit, dispatch_builtin hget, hv]
    simp only [hsettle]
    rfl
  · rw [record_workspace]
    rfl

/-- A call takes away the first of the vectors that were made. -/
theorem call_destroyVector {r : Registry Scene.Vector} {vs rest : List Scene.Vector}
    {v : Scene.Vector} (hr : r.Lists vs) (hgrown : r.Grown (v :: rest) e.scene.vectors)
    (hnodup : (Roster.names (vs ++ v :: rest)).Nodup) (hname : Workspace.Literal v.name)
    (surface : Bool) :
    ∃ result e', e.call Table.builtin surface (destroyCall .vector v.name) = (.ok result, e') ∧
      r.Grown rest e'.scene.vectors ∧ e'.scene.matrices = e.scene.matrices := by
  obtain ⟨v', r', t, hdestroy, hrest⟩ := State.destroyVector_grown hgrown hr hnodup hname
  have hrun : (Change.destroyVector v.name).run e.workspace = (.ok (.string v'.name),
      { e.workspace with
        scene := State.requestMenu { e.scene with vectors := r', stage := t } }) := by
    have hscene : e.workspace.scene.destroyVector v.name = some (v', _) := hdestroy
    simp only [Change.run, hscene]
    rfl
  obtain ⟨e', hcall, hworkspace⟩ := call_change (b := Builtin.destroyVector)
    (c := destroyCall .vector v.name) rfl rfl rfl hrun surface
  have hscene : e'.scene = State.requestMenu { e.scene with vectors := r', stage := t } :=
    congrArg Workspace.scene hworkspace
  refine ⟨_, e', hcall, ?_⟩
  rw [hscene]
  exact ⟨hrest, rfl⟩

/-- A call takes away the first of the matrices that were made. -/
theorem call_destroyMatrix {r : Registry Scene.Matrix} {ms rest : List Scene.Matrix}
    {m : Scene.Matrix} (hr : r.Lists ms) (hgrown : r.Grown (m :: rest) e.scene.matrices)
    (hnodup : (Roster.names (ms ++ m :: rest)).Nodup) (hname : Workspace.Literal m.name)
    (surface : Bool) :
    ∃ result e', e.call Table.builtin surface (destroyCall .matrix m.name) = (.ok result, e') ∧
      r.Grown rest e'.scene.matrices ∧ e'.scene.vectors = e.scene.vectors := by
  obtain ⟨m', r', t, hdestroy, hrest⟩ := State.destroyMatrix_grown hgrown hr hnodup hname
  have hrun : (Change.destroyMatrix m.name).run e.workspace = (.ok (.string m'.name),
      { e.workspace with
        scene := State.requestMenu { e.scene with matrices := r', stage := t } }) := by
    have hscene : e.workspace.scene.destroyMatrix m.name = some (m', _) := hdestroy
    simp only [Change.run, hscene]
    rfl
  obtain ⟨e', hcall, hworkspace⟩ := call_change (b := Builtin.destroyMatrix)
    (c := destroyCall .matrix m.name) rfl rfl rfl hrun surface
  have hscene : e'.scene = State.requestMenu { e.scene with matrices := r', stage := t } :=
    congrArg Workspace.scene hworkspace
  refine ⟨_, e', hcall, ?_⟩
  rw [hscene]
  exact ⟨hrest, rfl⟩

/-- What was made is taken away in turn, if there is a call that takes away the first of it. -/
theorem undo {α β : Type} [Entity α] (kind : Kind) (registry : Scene.State → Registry α)
    (other : Scene.State → β) (surface : Bool) {r : Registry α} {es : List α}
    (hfirst : ∀ {x rest} {e : Engine}, r.Grown (x :: rest) (registry e.scene) →
      (Roster.names (es ++ x :: rest)).Nodup → Workspace.Literal (Entity.name x) →
      ∃ result e', e.call Table.builtin surface (destroyCall kind (Entity.name x)) =
          (.ok result, e') ∧
        r.Grown rest (registry e'.scene) ∧ other e'.scene = other e.scene)
    {added : List α} (hgrown : r.Grown added (registry e.scene))
    (hnodup : (Roster.names (es ++ added)).Nodup)
    (hliteral : ∀ x ∈ added, Workspace.Literal (Entity.name x)) :
    ∃ results e', e.runList Table.builtin surface ((Roster.names added).map (destroyCall kind)) =
        (.ok results, e') ∧
      registry e'.scene = r ∧ other e'.scene = other e.scene := by
  induction added generalizing e with
  | nil => exact ⟨[], e, rfl, hgrown.eq_of_nil, rfl⟩
  | cons x rest ih =>
    obtain ⟨hx, hrest⟩ := List.forall_mem_cons.1 hliteral
    obtain ⟨result, middle, hcall, hmiddle, hkept⟩ := hfirst hgrown hnodup hx
    -- the rest stands behind the same registry
    obtain ⟨-, hnodup'⟩ := Roster.nodup_split_iff.1 hnodup
    obtain ⟨results, e', hrun, hback, hkept'⟩ := ih hmiddle hnodup' hrest
    refine ⟨result :: results, e', ?_, hback, hkept'.trans hkept⟩
    rw [Roster.names] at hrun
    simp only [Roster.names, List.map_cons, runList, hcall, hrun]

end Engine

/-! ### A call -/

/-- What was made stands behind what was there, in the one registry, and taking it away by its names
gives back both registries. -/
structure Yield.Adds (y : Yield) (e : Engine) (result : Value) (e' : Engine) : Prop where
  vectors : ∃ added, Roster.names added = y.vectorNames e.scene ∧
    e'.scene.vectors.names = e.scene.vectors.names ++ y.vectorNames e.scene ∧
    e'.scene.vectors.entities = e.scene.vectors.entities ++ added
  matrices : ∃ added, Roster.names added = y.matrixNames e.scene ∧
    e'.scene.matrices.names = e.scene.matrices.names ++ y.matrixNames e.scene ∧
    e'.scene.matrices.entities = e.scene.matrices.entities ++ added
  /-- The registry of the other kind is the same. -/
  other : match y.kind with
    | .vector => e'.scene.matrices = e.scene.matrices
    | .matrix => e'.scene.vectors = e.scene.vectors
  /-- The numbers of the names are used up. The other numbers, the camera and the settings are as
  before. -/
  rest : e'.scene = { y.advance e.scene with
    vectors := e'.scene.vectors, matrices := e'.scene.matrices, stage := e'.scene.stage,
    menuStale := e'.scene.menuStale }
  result : result = y.value e.scene
  undone : ∀ surface, ∃ results e'', e'.runList Table.builtin surface
      ((y.names e.scene).map (destroyCall y.kind)) = (.ok results, e'') ∧
    e''.scene.vectors = e.scene.vectors ∧ e''.scene.matrices = e.scene.matrices

/-- Names of new entities differ from each other and from those that are there. -/
theorem nodup_names_append {α : Type} [Entity α] {es added : List α} {names : List String}
    (hes : (Roster.names es).Nodup) (hadded : Roster.names added = names) (hnodup : names.Nodup)
    (hfree : ∀ name ∈ names, name ∉ Roster.names es) : (Roster.names (es ++ added)).Nodup := by
  have happend : Roster.names (es ++ added) = Roster.names es ++ names := by
    rw [← hadded]
    simp [Roster.names]
  rw [happend, List.nodup_append]
  refine ⟨hes, hnodup, fun a ha b hb hab => ?_⟩
  exact hfree b hb (hab ▸ ha)

theorem Yield.names_free {y : Yield} {s : Scene.State} (h : y.taken? s = none) :
    ∀ name ∈ y.names s, name ∉ y.rivals s := by
  intro name hname
  simpa using List.find?_eq_none.1 h name hname

/-- Where no name was taken, registries that have grown hold what is said. -/
theorem Yield.Grows.adds {y : Yield} {e e' : Engine} (h : y.Grows e.scene e'.scene)
    (hsane : e.Sane) (hfree : y.taken? e.scene = none) : y.Adds e (y.value e.scene) e' := by
  obtain ⟨vs, -, hvs, -⟩ := hsane.vectors.rosters
  obtain ⟨ms, -, hms, -⟩ := hsane.matrices.rosters
  obtain ⟨vectors, hvectors, hgrownvectors⟩ := h.vectors
  obtain ⟨matrices, hmatrices, hgrownmatrices⟩ := h.matrices
  have hnodup : (y.names e.scene).Nodup := y.counter.nodup_names _ _
  have hliteral : ∀ name ∈ y.names e.scene, Workspace.Literal name := Counter.literal_names
  have hnew := Yield.names_free hfree
  have hrest := h.rest
  unfold vectorNames at hvectors
  unfold matrixNames at hmatrices
  unfold rivals at hnew
  cases hkind : y.kind with
  | vector =>
    simp only [hkind] at hvectors hmatrices hnew
    -- no matrix was made, so that registry is the same
    obtain rfl : matrices = [] := List.map_eq_nil_iff.1 hmatrices
    have hsame := hgrownmatrices.eq_of_nil
    have hdiffer : (Roster.names (vs ++ vectors)).Nodup :=
      nodup_names_append hvs.nodup hvectors hnodup (hvs.shows.names ▸ hnew)
    refine ⟨⟨vectors, ?_, ?_, hgrownvectors.entities_eq hvs hdiffer⟩, ⟨[], ?_, ?_, ?_⟩, ?_, hrest,
      rfl, ?_⟩
    · simp only [vectorNames, hkind, hvectors]
    · simp only [vectorNames, hkind, hgrownvectors.names_eq, hvectors]
    · simp only [matrixNames, hkind, Roster.names, List.map_nil]
    · simp only [matrixNames, hkind, hsame, List.append_nil]
    · rw [hsame, List.append_nil]
    · simpa only [hkind] using hsame
    · intro surface
      rw [hkind, ← hvectors]
      have hnames : ∀ v ∈ vectors, Workspace.Literal v.name := fun v hv =>
        hliteral _ (hvectors ▸ List.mem_map_of_mem (f := Entity.name) hv)
      obtain ⟨results, e'', hrun, hback, hkept⟩ := Engine.undo .vector State.vectors
        State.matrices surface (fun hgrown hnodup hname =>
          Engine.call_destroyVector hvs hgrown hnodup hname surface) hgrownvectors hdiffer hnames
      exact ⟨results, e'', hrun, hback, hkept.trans hsame⟩
  | matrix =>
    simp only [hkind] at hvectors hmatrices hnew
    -- no vector was made
    obtain rfl : vectors = [] := List.map_eq_nil_iff.1 hvectors
    have hsame := hgrownvectors.eq_of_nil
    have hdiffer : (Roster.names (ms ++ matrices)).Nodup :=
      nodup_names_append hms.nodup hmatrices hnodup (hms.shows.names ▸ hnew)
    refine ⟨⟨[], ?_, ?_, ?_⟩, ⟨matrices, ?_, ?_, hgrownmatrices.entities_eq hms hdiffer⟩, ?_, hrest,
      rfl, ?_⟩
    · simp only [vectorNames, hkind, Roster.names, List.map_nil]
    · simp only [vectorNames, hkind, hsame, List.append_nil]
    · rw [hsame, List.append_nil]
    · simp only [matrixNames, hkind, hmatrices]
    · simp only [matrixNames, hkind, hgrownmatrices.names_eq, hmatrices]
    · simpa only [hkind] using hsame
    · intro surface
      rw [hkind, ← hmatrices]
      have hnames : ∀ m ∈ matrices, Workspace.Literal m.name := fun m hm =>
        hliteral _ (hmatrices ▸ List.mem_map_of_mem (f := Entity.name) hm)
      obtain ⟨results, e'', hrun, hback, hkept⟩ := Engine.undo .matrix State.matrices
        State.vectors surface (fun hgrown hnodup hname =>
          Engine.call_destroyMatrix hms hgrown hnodup hname surface) hgrownmatrices hdiffer hnames
      exact ⟨results, e'', hrun, hkept.trans hsame, hback⟩

/-- Nothing was made, and the result is the words for the reason: an entity that is read was not
found, and the scene is as it was, or a generated name is taken, and all of the numbers are used
up. -/
def Yield.Spares (y : Yield) (e : Engine) (x : Except Error Value × Engine) : Prop :=
  (∃ kind key, x.1 = .ok (.string (Scene.Error.notFound kind key).message) ∧
    x.2.scene = e.scene) ∨
  (∃ name, y.taken? e.scene = some name ∧
    x.1 = .ok (.string (Scene.Error.duplicateName y.kind name).message) ∧
    x.2.scene = y.advance e.scene)

theorem Yield.Spares.result {y : Yield} {e : Engine} {x : Except Error Value × Engine}
    (h : y.Spares e x) : ∃ text, x.1 = .ok (.string text) := by
  rcases h with ⟨kind, key, hresult, -⟩ | ⟨name, -, hresult, -⟩
  · exact ⟨_, hresult⟩
  · exact ⟨_, hresult⟩

/-- Where no generated name was taken, the scene is as it was. -/
theorem Yield.Spares.scene_eq {y : Yield} {e : Engine} {x : Except Error Value × Engine}
    (h : y.Spares e x) (hfree : y.taken? e.scene = none) : x.2.scene = e.scene := by
  rcases h with ⟨kind, key, -, hsame⟩ | ⟨name, htaken, -⟩
  · exact hsame
  · rw [hfree] at htaken
    cases htaken

/-- A call fails on its arguments or on what it reads, or finds a name taken or not found, or makes
everything. -/
theorem Builtin.Yields.dispatch_cases {b : Builtin} {y : Args → Yield} (hb : b.Yields y)
    {e : Engine} (he : e.Sane) {c : Call} (hget : Table.builtin.get? c.name = some b.command)
    (depth : Nat) (surface : Bool) :
    (¬recovers Table.builtin (depth + 1) c e ∧
      ∃ fault, dispatch Table.builtin (depth + 1) surface c e = (.error fault, e)) ∨
    (recovers Table.builtin (depth + 1) c e ∧
      (y c.args.present).Spares e (dispatch Table.builtin (depth + 1) surface c e)) ∨
    (¬recovers Table.builtin (depth + 1) c e ∧ (y c.args.present).taken? e.scene = none ∧
      (dispatch Table.builtin (depth + 1) surface c e).1 =
        .ok ((y c.args.present).value e.scene) ∧
      (y c.args.present).Grows e.scene
        (dispatch Table.builtin (depth + 1) surface c e).2.scene) := by
  rw [dispatch_builtin hget]
  cases hv : c.args.validate b.definition.parameters with
  | error fault =>
    refine .inl ⟨fun h => ?_, fault, rfl⟩
    obtain ⟨args, hargs, -⟩ := (recovers_builtin hget depth e).1 h
    rw [hv] at hargs
    cases hargs
  | ok args =>
    obtain rfl := validate_ok hv
    obtain ⟨vs, -, hvs, -⟩ := he.vectors.rosters
    obtain ⟨ms, -, hms, -⟩ := he.matrices.rosters
    have hscene := congrArg Workspace.scene (conclude_workspace b.definition surface
      c.args.present (b.settle depth c.args.present e).1 (b.settle depth c.args.present e).2)
    have hscene : (conclude b.definition surface c.args.present
        (b.settle depth c.args.present e).1 (b.settle depth c.args.present e).2).2.scene =
          (b.settle depth c.args.present e).2.scene := hscene
    rw [hb.recovers_iff hget hv]
    simp only
    rcases hb.settle_cases hvs hms depth c.args.present with
      ⟨fault, hsettle, hmisses⟩ | ⟨name, htaken, hfault, hspent⟩ | ⟨hfree, hok, hgrows⟩
    · -- a plan that fails changes nothing, whether its fault is reported as a result or not
      rw [hsettle] at hscene ⊢
      cases hl : fault.lookup? with
      | none => exact .inl ⟨by simp [hl], fault, conclude_fault _ _ _ hl e⟩
      | some lookup =>
        obtain ⟨kind, key, rfl⟩ := hmisses lookup hl
        refine .inr (.inl ⟨⟨fault, rfl, by simp [hl]⟩, .inl ⟨kind, key, ?_, hscene⟩⟩)
        rw [conclude_lookup _ _ _ hl]
    · -- a name that is taken is always reported as a result
      rw [hfault] at hscene ⊢
      refine .inr (.inl ⟨⟨_, rfl, rfl⟩, .inr ⟨name, htaken, ?_, hscene.trans hspent⟩⟩)
      rw [conclude_lookup _ _ _ rfl]
    · rw [hok] at hscene ⊢
      refine .inr (.inr ⟨by simp, hfree, rfl, ?_⟩)
      rw [hscene]
      exact hgrows

/-- **Commands that make entities under generated names** make all of them or none. An error comes
back only from a call that left the engine as it was. If the call recovers, an entity that it reads
was not found, and the scene is as before, or a generated name is taken, and all that has changed is
that the numbers of the names are used up. Otherwise no generated name was taken, the names are the
result, and their entities stand behind those that were there. -/
theorem dispatch_adds {e : Engine} (he : e.Reachable) {b : Builtin} {y : Args → Yield}
    (hb : (b, y) ∈ Builtin.makers) {c : Call} (hc : c.name = b.definition.name) (depth : Nat)
    (surface : Bool) :
    let x := dispatch Table.builtin depth surface c e
    (∀ fault, x.1 = .error fault → x.2 = e) ∧
    (recovers Table.builtin depth c e → (y c.args).Spares e x) ∧
    (∀ result, x.1 = .ok result → ¬recovers Table.builtin depth c e →
      (y c.args).taken? e.scene = none ∧ (y c.args).Adds e result x.2) := by
  intro x
  cases depth with
  | zero => exact ⟨fun _ _ => rfl, fun h => absurd h id, fun _ h => nomatch h⟩
  | succ depth =>
    have hget : Table.builtin.get? c.name = some b.command := hc ▸ Builtin.makers_get? hb
    rw [← Builtin.makers_present hb]
    rcases (Builtin.makers_yield hb).dispatch_cases he.sane hget depth surface with
      ⟨hnot, fault, hx⟩ | ⟨hrecovers, hspares⟩ | ⟨hnot, hfree, hresult, hgrows⟩
    · have hx : x = (.error fault, e) := hx
      refine ⟨fun _ _ => by rw [hx], fun h => absurd h hnot, fun result h => ?_⟩
      rw [hx] at h
      cases h
    · refine ⟨fun fault h => ?_, fun _ => hspares, fun _ _ hnot => absurd hrecovers hnot⟩
      obtain ⟨text, hresult⟩ := hspares.result
      have hresult : x.1 = .ok (.string text) := hresult
      rw [hresult] at h
      cases h
    · have hresult : x.1 = .ok ((y c.args.present).value e.scene) := hresult
      refine ⟨fun fault h => ?_, fun h => absurd h hnot, fun result h _ => ⟨hfree, ?_⟩⟩
      · rw [hresult] at h
        cases h
      · rw [hresult] at h
        cases h
        exact hgrows.adds he.sane hfree

section Axis

/-- An engine with a vector to make an axis from, and one under the second of the next two names. -/
def axisEngine : Engine :=
  let create (name : String) : Call :=
    ⟨"createVector2", .ofList [("name", .string name), ("endPosition", .ofPoint ⟨0, 1, 0⟩)]⟩
  let e : Engine := { draws := ⟨fun _ => 0, 0⟩, log := { files := {} } }
  ((e.call Table.builtin false (create "up")).2.call Table.builtin false (create "Result1")).2

/-- The first time the second name is taken, and no vector is made. The numbers are used up, so that
both vectors are made the second time. -/
theorem dispatch_adds_axis :
    let c : Call := ⟨"createAxisFromVector", .ofList [("vector", .string "up")]⟩
    let x := axisEngine.call Table.builtin true c
    let x' := x.2.call Table.builtin true c
    (Yield.several .results 2).Spares axisEngine x ∧ x.2.scene.resultCount = 2 ∧
      ∃ result, x'.1 = .ok result ∧ (Yield.several .results 2).Adds x.2 result x'.2 ∧
        x'.2.scene.vectors.names = ["up", "Result1", "Result2", "Result3"] := by
  intro c x x'
  have hcomputed : ((Yield.several .results 2).taken? axisEngine.scene = some "Result1" ∧
      x.1.isOk ∧ x.2.scene.resultCount = 2) ∧
      (Yield.several .results 2).taken? x.2.scene = none ∧ x'.1.isOk ∧
      x'.2.scene.resultCount = 4 ∧
      x'.2.scene.vectors.names = ["up", "Result1", "Result2", "Result3"] := by decide +kernel
  have hmaker : (Builtin.createAxisFromVector, fun _ => Yield.several .results 2) ∈
      Builtin.makers := by simp [Builtin.makers]
  have he : axisEngine.Reachable := .call false _ (.call false _ (.start ⟨fun _ => 0, 0⟩ {}))
  obtain ⟨-, hspares, hadds⟩ := dispatch_adds he hmaker (c := c) rfl
    (c.args.longest + Engine.nestingLimit) true
  obtain ⟨-, hspares', hadds'⟩ := dispatch_adds (he.call true c) hmaker (c := c) rfl
    (c.args.longest + Engine.nestingLimit) true
  have hx : dispatch Table.builtin (c.args.longest + Engine.nestingLimit) true c axisEngine = x :=
    rfl
  have hx' : dispatch Table.builtin (c.args.longest + Engine.nestingLimit) true c x.2 = x' := rfl
  have hcall : axisEngine.call Table.builtin true c = x := rfl
  simp only [hcall, hx, hx'] at hspares hadds hspares' hadds'
  clear_value x' x
  -- both calls come through, the first with the words for a name that is taken
  obtain ⟨⟨htaken, hok, hcount⟩, hfree, hok', hcount', hnames⟩ := hcomputed
  obtain ⟨x, e⟩ := x
  obtain ⟨x', e'⟩ := x'
  cases x with
  | error fault => cases hok
  | ok result =>
    cases x' with
    | error fault => cases hok'
    | ok result' =>
      refine ⟨hspares ?_, hcount, result', rfl, (hadds' result' rfl ?_).2, hnames⟩
      · by_contra hmakes
        have hnone := (hadds result rfl hmakes).1
        rw [htaken] at hnone
        cases hnone
      · intro hrecovers
        have hsame := (hspares' hrecovers).scene_eq hfree
        rw [hsame, hcount] at hcount'
        cases hcount'

end Axis
end VectorScene.Command
