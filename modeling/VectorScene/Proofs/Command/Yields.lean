import VectorScene.Proofs.Command.Changes
import VectorScene.Proofs.Scene.Growth

/-!
# Entities under generated names

A change makes one vector or one matrix, several vectors, or random vectors, under the next
generated names; random vectors have a counter of their own. It makes all of them or none. If one of
the names is taken, nothing is made, and the numbers of the names are used up all the same.

## Main definitions

* `Counter`: the numbers of generated names
* `Yield`: what is made under generated names
* `Yield.Grows`: the registries have grown by what is made, and little else has changed
* `Change.yield?`: what a change makes

## Main results

* `Counter.nodup_names`: consecutive names differ
* `Workspace.addVectors_cases`: vectors that are added, all of them or none
* `Change.run_yield`: a change that makes something
-/

namespace VectorScene.Command

open Scene

/-! ### What is made -/

/-- The numbers of generated names: those of results, and those of random vectors. -/
inductive Counter where
  | results
  | randoms

namespace Counter

/-- The number of the next name. -/
def count : Counter → Scene.State → Nat
  | results, s => s.resultCount
  | randoms, s => s.randomCount

/-- The name of a number. -/
def name : Counter → Nat → String
  | results => State.resultName
  | randoms => State.randomName

/-- The scene after some names have been used up. -/
def advance : Counter → Nat → Scene.State → Scene.State
  | results, k, s => { s with resultCount := s.resultCount + k }
  | randoms, k, s => { s with randomCount := s.randomCount + k }

/-- The names of consecutive numbers. -/
def names (c : Counter) (n k : Nat) : List String := (List.range k).map fun i => c.name (n + i)

theorem names_succ (c : Counter) (n k : Nat) :
    c.names n (k + 1) = c.name n :: c.names (n + 1) k := by
  simp only [names, List.range_succ_eq_map, List.map_cons, List.map_map, Nat.add_zero,
    List.cons.injEq, true_and]
  refine List.map_congr_left fun i _ => ?_
  simp only [Function.comp_apply]
  congr 1
  omega

theorem name_injective (c : Counter) : Function.Injective c.name := by
  cases c with
  | results => exact State.resultName_injective
  | randoms => exact State.randomName_injective

/-- Generated names differ. -/
theorem nodup_names (c : Counter) (n k : Nat) : (c.names n k).Nodup := by
  refine List.nodup_range.map fun i j h => ?_
  have hsum := c.name_injective h
  omega

/-- A generated name is looked up as a name. -/
theorem literal_name (c : Counter) (n : Nat) : Workspace.Literal (c.name n) := by
  cases c with
  | results => exact Workspace.literal_resultName n
  | randoms => exact Workspace.literal_randomName n

theorem literal_names {c : Counter} {n k : Nat} : ∀ name ∈ c.names n k, Workspace.Literal name := by
  intro name hname
  obtain ⟨i, -, rfl⟩ := List.mem_map.1 hname
  exact c.literal_name _

end Counter

/-- What a command makes under generated names: one entity, whose name is the result, or several
vectors, whose names are. -/
inductive Yield where
  | one (kind : Kind)
  | several (counter : Counter) (count : Nat)

namespace Yield

/-- The kind of the entities that are made. -/
def kind : Yield → Kind
  | one kind => kind
  | several _ _ => .vector

/-- The numbers that the names are from. -/
def counter : Yield → Counter
  | one _ => .results
  | several counter _ => counter

/-- How many entities are made. -/
def count : Yield → Nat
  | one _ => 1
  | several _ count => count

/-- The names of the entities. -/
def names (y : Yield) (s : Scene.State) : List String := y.counter.names (y.counter.count s) y.count

/-- The result of a command that makes the entities. -/
def value (y : Yield) (s : Scene.State) : Value :=
  match y with
  | one _ => .string (State.resultName s.resultCount)
  | several _ _ => .ofStrings (y.names s)

/-- The scene after the names have been used up. -/
def advance (y : Yield) (s : Scene.State) : Scene.State := y.counter.advance y.count s

/-- The names of the entities of the same kind. -/
def rivals (y : Yield) (s : Scene.State) : List String :=
  match y.kind with
  | .vector => s.vectors.names
  | .matrix => s.matrices.names

/-- The first of the names that is taken. -/
def taken? (y : Yield) (s : Scene.State) : Option String :=
  (y.names s).find? fun name => name ∈ y.rivals s

/-- The names of the vectors that are made. -/
def vectorNames (y : Yield) (s : Scene.State) : List String :=
  match y.kind with
  | .vector => y.names s
  | .matrix => []

/-- The names of the matrices that are made. -/
def matrixNames (y : Yield) (s : Scene.State) : List String :=
  match y.kind with
  | .vector => []
  | .matrix => y.names s

theorem taken?_one (kind : Kind) (s : Scene.State) :
    (one kind).taken? s =
      if State.resultName s.resultCount ∈ (one kind).rivals s then
        some (State.resultName s.resultCount)
      else none := by
  have hnames : (one kind).names s = [State.resultName s.resultCount] := by
    simp [names, counter, count, Counter.names, Counter.name, Counter.count]
  rw [taken?, hnames, List.find?_singleton]
  simp

/-- The registries have grown by entities of the names, and nothing else has changed but the
numbers of generated names, the stage and the menu flag. -/
structure Grows (y : Yield) (s s' : Scene.State) : Prop where
  vectors : ∃ added, Roster.names added = y.vectorNames s ∧ s.vectors.Grown added s'.vectors
  matrices : ∃ added, Roster.names added = y.matrixNames s ∧ s.matrices.Grown added s'.matrices
  rest : s' = { y.advance s with
    vectors := s'.vectors, matrices := s'.matrices, stage := s'.stage, menuStale := s'.menuStale }

end Yield

/-! ### Changes -/

namespace Workspace

variable {vs : List Scene.Vector}

theorem nameResults_names (sketches : List Sketch) (w : Workspace) :
    Roster.names (nameResults sketches w).1 =
      Counter.results.names w.scene.resultCount sketches.length := by
  induction sketches generalizing w with
  | nil => rfl
  | cons sketch rest ih =>
    have hname := sketch.draw_name w.scene.nextResultName.1 w.draws
    have hrest := ih ⟨w.scene.nextResultName.2, (sketch.draw w.scene.nextResultName.1 w.draws).2⟩
    rw [List.length_cons, Counter.names_succ]
    simp only [nameResults, Roster.names, List.map_cons]
    exact congrArg₂ List.cons hname hrest

theorem nameResults_scene (sketches : List Sketch) (w : Workspace) :
    (nameResults sketches w).2.scene = Counter.results.advance sketches.length w.scene := by
  induction sketches generalizing w with
  | nil => rfl
  | cons sketch rest ih =>
    simp only [nameResults, ih, Counter.advance, State.nextResultName, List.length_cons]
    congr 1
    omega

theorem nameRandoms_names (length : Float) (unit : Bool) (mode : RenderMode) (count : Nat)
    (w : Workspace) : Roster.names (nameRandoms length unit mode count w).1 =
      Counter.randoms.names w.scene.randomCount count := by
  induction count generalizing w with
  | zero => rfl
  | succ count ih =>
    rw [Counter.names_succ]
    simp only [nameRandoms, Roster.names, List.map_cons]
    exact congrArg₂ List.cons rfl (ih _)

theorem nameRandoms_scene (length : Float) (unit : Bool) (mode : RenderMode) (count : Nat)
    (w : Workspace) : (nameRandoms length unit mode count w).2.scene =
      Counter.randoms.advance count w.scene := by
  induction count generalizing w with
  | zero => rfl
  | succ count ih =>
    simp only [nameRandoms, ih, Counter.advance, State.nextRandomName]
    congr 1
    omega

/-- The test for names that are taken finds the first that is, since the names themselves differ. -/
theorem clash?_eq_find? {s : Scene.State} (h : s.vectors.Lists vs) {xs : List Scene.Vector}
    (hliteral : ∀ name ∈ Roster.names xs, Literal name) (hnodup : (Roster.names xs).Nodup)
    {before : List String} (hbefore : ∀ name ∈ Roster.names xs, name ∉ before) :
    clash? s before xs = (Roster.names xs).find? fun name => name ∈ s.vectors.names := by
  -- induction on the vectors, whose names join those before one by one
  induction xs generalizing before with
  | nil => rfl
  | cons v rest ih =>
    obtain ⟨hv, hrest⟩ := List.nodup_cons.1 hnodup
    obtain ⟨hvliteral, hliterals⟩ := List.forall_mem_cons.1 hliteral
    obtain ⟨hvbefore, hbefores⟩ := List.forall_mem_cons.1 hbefore
    have hcontains : s.vectors.contains v.name = decide (v.name ∈ s.vectors.names) := by
      rw [Registry.contains, h.shows.resolve_literal v.name hvliteral, h.shows.names]
      by_cases hname : v.name ∈ Roster.names vs <;> simp [hname]
    have hvbefore : v.name ∉ before := hvbefore
    have hnew : before.contains v.name = false := by simpa using hvbefore
    rw [clash?, hcontains, hnew, Bool.or_false, Roster.names, List.map_cons, List.find?_cons]
    have hsame : Entity.name v = v.name := rfl
    rw [hsame]
    cases decide (v.name ∈ s.vectors.names) with
    | true => rfl
    | false =>
      refine ih hliterals hrest fun name hname hmem => ?_
      rcases List.mem_append.1 hmem with hmem | hmem
      · exact hbefores name hname hmem
      · rw [List.mem_singleton.1 hmem] at hname
        exact hv hname

/-- Vectors that are added are on the stage then. -/
def Entered (v added : Scene.Vector) : Prop := ∃ s, added = (Entity.enter v s).1

theorem names_entered {xs added : List Scene.Vector} (h : List.Forall₂ Entered xs added) :
    Roster.names added = Roster.names xs := by
  induction h with
  | nil => rfl
  | cons hfirst _ ih =>
    obtain ⟨s, rfl⟩ := hfirst
    simp only [Roster.names, List.map_cons] at ih ⊢
    rw [ih, Entity.name_enter]

/-- Vectors with new names make the registry grow, one after another. -/
theorem createAll_grown {s : Scene.State} (h : s.vectors.Lists vs) {xs : List Scene.Vector}
    (hnodup : (Roster.names xs).Nodup) (hnew : ∀ name ∈ Roster.names xs, name ∉ Roster.names vs) :
    ∃ added r t, createAll xs s = (.ok (), { s with vectors := r, stage := t }) ∧
      List.Forall₂ Entered xs added ∧ s.vectors.Grown added r := by
  induction xs generalizing s vs with
  | nil => exact ⟨[], s.vectors, s.stage, rfl, .nil, .refl _⟩
  | cons v rest ih =>
    obtain ⟨hv, hrest⟩ := List.nodup_cons.1 hnodup
    obtain ⟨hvnew, hnews⟩ := List.forall_mem_cons.1 hnew
    obtain ⟨r, t, hcreate, hgrown⟩ := State.createVector_grown h hvnew
    generalize hentered : (Entity.enter v s.stage).1 = entered at hgrown
    have hname : Entity.name entered = Entity.name v := by
      rw [← hentered, Entity.name_enter]
    have hsnoc : Roster.names (vs ++ [entered]) = Roster.names vs ++ [Entity.name v] := by
      simp [Roster.names, hname]
    have hlists : r.Lists (vs ++ [entered]) := by
      refine hgrown.lists h ?_
      rw [hsnoc, List.nodup_append]
      refine ⟨h.nodup, by simp, fun a ha b hb hab => ?_⟩
      rw [List.mem_singleton.1 hb] at hab
      exact hvnew (hab ▸ ha)
    -- the names of the others are still new once the first vector is there
    have hstill : ∀ name ∈ Roster.names rest, name ∉ Roster.names (vs ++ [entered]) := by
      intro name hmem hin
      rw [hsnoc] at hin
      rcases List.mem_append.1 hin with hin | hin
      · exact hnews name hmem hin
      · rw [List.mem_singleton.1 hin] at hmem
        exact hv hmem
    obtain ⟨added, r', t', hall, hadded, hgrown'⟩ :=
      @ih _ { s with vectors := r, stage := t } hlists hrest hstill
    refine ⟨entered :: added, r', t', ?_, ?_, hgrown.trans hgrown'⟩
    · rw [createAll, hcreate]
      exact hall
    · exact .cons ⟨s.stage, hentered.symm⟩ hadded

/-- Vectors with different names that are no shortcuts are added, all of them or none. -/
theorem addVectors_cases {w : Workspace} (h : w.scene.vectors.Lists vs) {xs : List Scene.Vector}
    (hliteral : ∀ name ∈ Roster.names xs, Literal name) (hnodup : (Roster.names xs).Nodup) :
    (∃ name, (Roster.names xs).find? (fun name => name ∈ w.scene.vectors.names) = some name ∧
      w.addVectors xs = (.error (.duplicateName .vector name), w)) ∨
    ((Roster.names xs).find? (fun name => name ∈ w.scene.vectors.names) = none ∧
      ∃ added r t stale, w.addVectors xs = (.ok (.ofStrings (Roster.names xs)),
          { w with scene := { w.scene with vectors := r, stage := t, menuStale := stale } }) ∧
        List.Forall₂ Entered xs added ∧ w.scene.vectors.Grown added r) := by
  have hempty : ∀ name ∈ Roster.names xs, name ∉ ([] : List String) := fun _ _ => by simp
  have hclash := clash?_eq_find? h hliteral hnodup hempty
  unfold addVectors
  rw [hclash]
  cases hfind : (Roster.names xs).find? fun name => name ∈ w.scene.vectors.names with
  | some name => exact .inl ⟨name, rfl, rfl⟩
  | none =>
    right
    have hnew : ∀ name ∈ Roster.names xs, name ∉ Roster.names vs := by
      intro name hmem
      have hnot := List.find?_eq_none.1 hfind name hmem
      rw [h.shows.names] at hnot
      simpa using hnot
    obtain ⟨added, r, t, hall, hadded, hgrown⟩ := createAll_grown h hnodup hnew
    have hvalue : xs.map (·.name) = Roster.names xs := rfl
    refine ⟨rfl, added, r, t, ?_, ?_, hadded, hgrown⟩
    · exact if xs.isEmpty then w.scene.menuStale else true
    · simp only [hall, hvalue]
      cases xs.isEmpty <;> rfl

end Workspace

/-- What a change makes under generated names. -/
def Change.yield? : Change → Option Yield
  | .resultVector _ => some (.one .vector)
  | .resultVectors sketches => some (.several .results sketches.length)
  | .resultMatrix _ => some (.one .matrix)
  | .randomVectors count _ _ _ => some (.several .randoms count)
  | _ => none

namespace Workspace

variable {vs : List Scene.Vector} {ms : List Scene.Matrix}

/-- Vectors that have been named are added, all of them or none. -/
theorem addVectors_yield {w w' : Workspace} (h : w.scene.vectors.Lists vs) (c : Counter)
    {xs : List Scene.Vector} {k : Nat} (hscene : w'.scene = c.advance k w.scene)
    (hnames : Roster.names xs = c.names (c.count w.scene) k) :
    match (Yield.several c k).taken? w.scene with
    | some name => (w'.addVectors xs).1 = .error (.duplicateName .vector name) ∧
        (w'.addVectors xs).2.scene = c.advance k w.scene
    | none => (w'.addVectors xs).1 = .ok ((Yield.several c k).value w.scene) ∧
        (Yield.several c k).Grows w.scene (w'.addVectors xs).2.scene := by
  -- naming the vectors used up names and nothing else
  have hvectors : w'.scene.vectors = w.scene.vectors := by
    rw [hscene]
    cases c <;> rfl
  have hmatrices : w'.scene.matrices = w.scene.matrices := by
    rw [hscene]
    cases c <;> rfl
  have hliteral : ∀ name ∈ Roster.names xs, Literal name := hnames ▸ Counter.literal_names
  have hnodup : (Roster.names xs).Nodup := hnames ▸ c.nodup_names _ _
  have htaken : (Yield.several c k).taken? w.scene =
      (Roster.names xs).find? fun name => name ∈ w'.scene.vectors.names := by
    rw [hvectors, hnames]
    rfl
  rw [htaken]
  rcases addVectors_cases (hvectors ▸ h) hliteral hnodup with
    ⟨name, hfind, hadd⟩ | ⟨hfind, added, r, t, stale, hadd, hadded, hgrown⟩
  · rw [hfind, hadd]
    exact ⟨rfl, hscene⟩
  · rw [hfind, hadd]
    refine ⟨?_, ?_, ?_, ?_⟩
    · rw [hnames]
      rfl
    · exact ⟨added, (names_entered hadded).trans hnames, hvectors ▸ hgrown⟩
    · exact ⟨[], rfl, hmatrices ▸ .refl _⟩
    · simp only [hscene]
      rfl

theorem resultVector_yield {w : Workspace} (h : w.scene.vectors.Lists vs) (sketch : Sketch) :
    match (Yield.one .vector).taken? w.scene with
    | some name =>
      ((Change.resultVector sketch).run w).1 = .error (.duplicateName .vector name) ∧
        ((Change.resultVector sketch).run w).2.scene = (Yield.one .vector).advance w.scene
    | none =>
      ((Change.resultVector sketch).run w).1 = .ok ((Yield.one .vector).value w.scene) ∧
        (Yield.one .vector).Grows w.scene ((Change.resultVector sketch).run w).2.scene := by
  have hdrawn := sketch.draw_name (State.resultName w.scene.resultCount) w.draws
  have hrun : (Change.resultVector sketch).run w =
      Workspace.addVector ⟨w.scene.nextResultName.2, w.draws⟩
        (State.resultName w.scene.resultCount) sketch := rfl
  have hrivals : (Yield.one .vector).rivals w.scene = Roster.names vs := h.shows.names
  have hlists : w.scene.nextResultName.2.vectors.Lists vs := h
  rw [hrun, addVector_eq, Yield.taken?_one, hrivals]
  simp only
  generalize sketch.draw (State.resultName w.scene.resultCount) w.draws = p at hdrawn ⊢
  obtain ⟨v, draws⟩ := p
  have hname : v.name = State.resultName w.scene.resultCount := hdrawn
  rw [← hname]
  by_cases hmem : v.name ∈ Roster.names vs
  · rw [if_pos hmem, State.createVector_taken hlists hmem]
    exact ⟨rfl, rfl⟩
  · obtain ⟨r, t, hcreate, hgrown⟩ := State.createVector_grown hlists hmem
    rw [if_neg hmem, hcreate]
    refine ⟨?_, ⟨_, ?_, hgrown⟩, ⟨[], rfl, .refl _⟩, rfl⟩
    · rw [hname]
      rfl
    · rw [Roster.names, List.map_singleton, Entity.name_enter]
      exact congrArg (fun name => [name]) hname

theorem resultMatrix_yield {w : Workspace} (h : w.scene.matrices.Lists ms)
    (transform : Geometry.Transform) :
    match (Yield.one .matrix).taken? w.scene with
    | some name =>
      ((Change.resultMatrix transform).run w).1 = .error (.duplicateName .matrix name) ∧
        ((Change.resultMatrix transform).run w).2.scene = (Yield.one .matrix).advance w.scene
    | none =>
      ((Change.resultMatrix transform).run w).1 = .ok ((Yield.one .matrix).value w.scene) ∧
        (Yield.one .matrix).Grows w.scene ((Change.resultMatrix transform).run w).2.scene := by
  have hrun : (Change.resultMatrix transform).run w =
      Workspace.addMatrix ⟨w.scene.nextResultName.2, w.draws⟩
        (State.resultName w.scene.resultCount) transform := rfl
  have hrivals : (Yield.one .matrix).rivals w.scene = Roster.names ms := h.shows.names
  have hlists : w.scene.nextResultName.2.matrices.Lists ms := h
  rw [hrun, addMatrix, Yield.taken?_one, hrivals]
  simp only
  generalize hbuilt : Scene.Matrix.build (State.resultName w.scene.resultCount) transform {} = m
  have hname : m.name = State.resultName w.scene.resultCount := by
    rw [← hbuilt]
    rfl
  rw [← hname]
  by_cases hmem : m.name ∈ Roster.names ms
  · rw [if_pos hmem, State.createMatrix_taken hlists hmem]
    exact ⟨rfl, rfl⟩
  · obtain ⟨r, t, hcreate, hgrown⟩ := State.createMatrix_grown hlists hmem
    rw [if_neg hmem, hcreate]
    refine ⟨?_, ⟨[], rfl, .refl _⟩, ⟨_, ?_, hgrown⟩, rfl⟩
    · rw [hname]
      rfl
    · rw [Roster.names, List.map_singleton, Entity.name_enter]
      exact congrArg (fun name => [name]) hname

end Workspace

/-- **A change that makes something** makes all of it, or nothing if one of the names is taken. -/
theorem Change.run_yield {w : Workspace} {vs : List Scene.Vector} {ms : List Scene.Matrix}
    (hvs : w.scene.vectors.Lists vs) (hms : w.scene.matrices.Lists ms) {change : Change}
    {y : Yield} (hy : change.yield? = some y) :
    match y.taken? w.scene with
    | some name => (change.run w).1 = .error (.duplicateName y.kind name) ∧
        (change.run w).2.scene = y.advance w.scene
    | none => (change.run w).1 = .ok (y.value w.scene) ∧
        y.Grows w.scene (change.run w).2.scene := by
  cases change with
  | resultVector sketch =>
    cases hy
    exact Workspace.resultVector_yield hvs sketch
  | resultVectors sketches =>
    cases hy
    exact Workspace.addVectors_yield hvs .results (Workspace.nameResults_scene sketches w)
      (Workspace.nameResults_names sketches w)
  | resultMatrix transform =>
    cases hy
    exact Workspace.resultMatrix_yield hms transform
  | randomVectors count length unit mode =>
    cases hy
    exact Workspace.addVectors_yield hvs .randoms
      (Workspace.nameRandoms_scene length unit mode count w)
      (Workspace.nameRandoms_names length unit mode count w)
  | _ => cases hy

end VectorScene.Command
