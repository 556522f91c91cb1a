import VectorScene.Proofs.Command.InPlace
import VectorScene.Proofs.Command.Rebuilding
import VectorScene.Proofs.Scene.Growth

/-!
# What a copy has of its vector

A copy of a vector is made by way of the arguments of another command. They say all that can be seen
of the vector, but the arc of an angle also has the names of the vectors that it joins, which no
argument of that command stands for. So the copy of an arc joins nothing, while every other copy
has all that its vector has.

## Main definitions

* `Vector.Resembles`: a vector has all that can be seen of another one
* `Vector.Duplicates`: a vector has all that another one has

## Main results

* `resembles_copyOf`, `duplicates_copyOf_iff`: the vector that the arguments say
* `duplicateVector_settle`: the command makes that vector
* `call_duplicateVector`: a call makes a copy
-/

namespace VectorScene.Scene.Vector

/-- A vector that has a name and all that can be seen of another one. Its label is its own name if
that of the other one is the other one's name. -/
structure Resembles (own : String) (v copy : Vector) : Prop where
  name : copy.name = own
  start : copy.start = v.start
  tip : copy.tip = v.tip
  color : copy.color = v.color
  mode : copy.mode = v.mode
  visible : copy.visible = v.visible
  labelled : copy.labelled = v.labelled
  scale : copy.scale = v.scale
  label : copy.label = if v.label = v.name then own else v.label

/-- A vector that has a name and all of another one, the vectors that are joined included. -/
structure Duplicates (own : String) (v copy : Vector) : Prop where
  resembles : Resembles own v copy
  basisA : copy.basisA = v.basisA
  basisB : copy.basisB = v.basisB

end VectorScene.Scene.Vector

namespace VectorScene.Command

open VectorScene.Geometry Scene

/-! ### The vector that the arguments say -/

section Copies

variable (name : String) {v : Scene.Vector} (s : Stage)

/-- The vector that the arguments of a copy say, on the stage, differs from it in the handle. -/
theorem enter_copyOf : ∃ h, (Entity.enter (copyOf name v) s).1 =
    { copyOf name v with handle := some h } :=
  ⟨_, congrArg (·.1) (Scene.Vector.enter_eq (copyOf name v) s)⟩

/-- **The arguments of a copy** say a vector that resembles the one that they are made from. -/
theorem resembles_copyOf (hv : v.Captioned) :
    v.Resembles name (Entity.enter (copyOf name v) s).1 := by
  have hlabel : (copyOf name v).label = if v.label = v.name then name else v.label := by
    by_cases hsame : v.label = v.name
    · rw [if_pos hsame, copyOf, copySketch, if_pos hsame]
      rfl
    · -- a label that differs from the name is not empty, and is kept
      rw [if_neg hsame, copyOf, copySketch, if_neg hsame]
      exact Scene.Vector.labelOr_some fun hempty => absurd (hempty.trans (hv hempty).symm) hsame
  obtain ⟨h, henter⟩ := @enter_copyOf name v s
  rw [henter]
  exact ⟨rfl, rfl, rfl, rfl, rfl, rfl, rfl, rfl, hlabel⟩

/-- It joins nothing. -/
theorem basis_copyOf : (Entity.enter (copyOf name v) s).1.basisA = none ∧
    (Entity.enter (copyOf name v) s).1.basisB = none := by
  obtain ⟨h, henter⟩ := @enter_copyOf name v s
  rw [henter]
  exact ⟨rfl, rfl⟩

/-- So it is a duplicate just if the other one joins nothing either. -/
theorem duplicates_copyOf_iff (hv : v.Captioned) :
    v.Duplicates name (Entity.enter (copyOf name v) s).1 ↔ v.basisA = none ∧ v.basisB = none := by
  obtain ⟨hnoA, hnoB⟩ := @basis_copyOf name v s
  constructor
  · rintro ⟨-, ha, hb⟩
    exact ⟨ha.symm.trans hnoA, hb.symm.trans hnoB⟩
  · rintro ⟨ha, hb⟩
    exact ⟨resembles_copyOf name s hv, hnoA.trans ha.symm, hnoB.trans hb.symm⟩

end Copies

/-! ### The command -/

section Calls

variable {e : Engine} {vs : List Scene.Vector} {args : Args} {name key : String} {i : Nat}
  {v : Scene.Vector}

theorem conclude_scene (d : Definition) (surface : Bool) (args : Args) (result : Except Error Value)
    (e : Engine) : (conclude d surface args result e).2.scene = e.scene :=
  congrArg Workspace.scene (conclude_workspace d surface args result e)

/-- The vector that a key leads to is the one that the command reads. -/
theorem View.vector_of_leads (hvs : e.scene.vectors.Lists vs)
    (hkey : args.get? "vector" = some (.string key)) (hleads : e.scene.vectors.Leads key i v) :
    e.builtinView.vector args "vector" = .ok v := by
  have hget : e.scene.vectors.get? key = some v := by
    rw [hvs.get?_eq, hvs.leads_iff.1 hleads]
    rfl
  have hscene : e.builtinView.scene = e.scene := rfl
  simp only [View.vector, Args.string_of_get? hkey, bind, Except.bind, hscene, Registry.require,
    hget]
  rfl

/-- The command has the vector made that the arguments of the copy say. -/
theorem duplicateVector_settle (hvs : e.scene.vectors.Lists vs)
    (hname : args.get? "name" = some (.string name))
    (hkey : args.get? "vector" = some (.string key)) (hleads : e.scene.vectors.Leads key i v)
    (hcolor : v.color ≤ Color.limit) (hnew : name ∉ e.scene.vectors.names) (depth : Nat) :
    (Builtin.duplicateVector.settle (depth + 1) args e).1 = .ok (.string name) ∧
      e.scene.vectors.Grown [(Entity.enter (copyOf name v) e.scene.stage).1]
        (Builtin.duplicateVector.settle (depth + 1) args e).2.scene.vectors := by
  have hfree : (copyOf name v).name ∉ Roster.names vs := hvs.names_eq ▸ hnew
  obtain ⟨r, t, hcreate, hgrown⟩ := State.createVector_grown hvs hfree
  have hsettle : Builtin.duplicateVector.settle (depth + 1) args e =
      dispatch Table.builtin (depth + 1) false ⟨"createVector", copyArgs name v⟩ e := by
    rw [Builtin.settle, duplicateVector_plan, View.vector_of_leads hvs hkey hleads]
    simp only [Args.string_of_get? hname, bind, Except.bind, pure, Except.pure,
      Plan.perform_delegate]
  rw [hsettle, dispatch_copy name hcolor, hcreate, conclude_scene]
  exact ⟨rfl, hgrown⟩

/-- **The command** has the registry grow by that vector. -/
theorem dispatch_duplicateVector (hvs : e.scene.vectors.Lists vs)
    (hname : args.get? "name" = some (.string name))
    (hkey : args.get? "vector" = some (.string key)) (hleads : e.scene.vectors.Leads key i v)
    (hcolor : v.color ≤ Color.limit) (hnew : name ∉ e.scene.vectors.names) (depth : Nat)
    (surface : Bool) :
    let x := dispatch Table.builtin (depth + 2) surface ⟨"duplicateVector", args⟩ e
    x.1 = .ok (.string name) ∧
      e.scene.vectors.Grown [(Entity.enter (copyOf name v) e.scene.stage).1] x.2.scene.vectors := by
  intro x
  have hget : Table.builtin.get? "duplicateVector" = some Builtin.duplicateVector.command := rfl
  have hfault : ∀ p ∈ Builtin.duplicateVector.definition.parameters, args.fault? p = none := by
    simp only [Builtin.duplicateVector, List.forall_mem_cons]
    exact ⟨Args.fault?_of_accepts hname rfl, Args.fault?_of_accepts hkey rfl, by simp⟩
  have hvalid : args.validate Builtin.duplicateVector.definition.parameters = .ok args.present := by
    rw [Args.validate, List.findSome?_eq_none_iff.2 hfault]
  rw [← Args.get?_present] at hname hkey
  obtain ⟨hresult, hgrown⟩ := duplicateVector_settle hvs hname hkey hleads hcolor hnew depth
  have hx : x = conclude Builtin.duplicateVector.definition surface args.present
      (.ok (.string name)) (Builtin.duplicateVector.settle (depth + 1) args.present e).2 := by
    simp only [x]
    rw [dispatch_builtin hget, hvalid]
    simp only [hresult]
  rw [hx, conclude_scene]
  exact ⟨rfl, hgrown⟩

end Calls

/-! ### A call -/

/-- In a tidy scene every vector can be copied under every name that no vector has. -/
theorem Workspace.Tidy.duplicates {e : Engine} (he : e.workspace.Tidy) {args : Args}
    {name key : String} (hname : args.get? "name" = some (.string name))
    (hkey : args.get? "vector" = some (.string key)) {i : Nat} {v : Scene.Vector}
    (hleads : e.scene.vectors.Leads key i v) (hnew : name ∉ e.scene.vectors.names)
    (surface : Bool) :
    let x := e.call Table.builtin surface ⟨"duplicateVector", args⟩
    x.1 = .ok (.string name) ∧ x.2.scene.vectors.names = e.scene.vectors.names ++ [name] ∧
      ∃ copy, x.2.scene.vectors.entities = e.scene.vectors.entities ++ [copy] ∧
        v.Resembles name copy ∧ copy.basisA = none ∧ copy.basisB = none ∧
        (v.Duplicates name copy ↔ v.basisA = none ∧ v.basisB = none) := by
  intro x
  obtain ⟨vs, -, hvs, -, -, hcolors, -⟩ := he.alike.scene.vectors.rosters
  have hscene : e.workspace.scene = e.scene := rfl
  rw [hscene] at hvs
  have hmem : v ∈ vs := by
    obtain ⟨-, -, -, hv⟩ := hleads
    rw [hvs.entities_eq] at hv
    exact List.mem_of_getElem? hv
  have hcaptioned : v.Captioned := he.captioned.vectors.entities v (hvs.entities_eq ▸ hmem)
  have hfree : name ∉ Roster.names vs := hvs.names_eq ▸ hnew
  have hown : Entity.name (Entity.enter (copyOf name v) e.scene.stage).1 = name :=
    Entity.name_enter ..
  have hnodup : (Roster.names (vs ++ [(Entity.enter (copyOf name v) e.scene.stage).1])).Nodup := by
    rw [Roster.nodup_split_iff, List.append_nil, hown]
    exact ⟨hfree, hvs.nodup⟩
  -- the limit leaves room for the call that this one runs
  obtain ⟨depth, hdepth⟩ : ∃ depth, args.longest + Engine.nestingLimit = depth + 2 :=
    Nat.exists_eq_add_of_le' (Nat.le_add_left_of_le (by decide))
  obtain ⟨hresult, hgrown⟩ := dispatch_duplicateVector hvs hname hkey hleads (hcolors v hmem) hnew
    depth surface
  have hx : x = dispatch Table.builtin (args.longest + Engine.nestingLimit) surface
      ⟨"duplicateVector", args⟩ e := rfl
  rw [hdepth] at hx
  clear_value x
  subst hx
  refine ⟨hresult, ?_, _, hgrown.entities_eq hvs hnodup, resembles_copyOf name _ hcaptioned, ?_⟩
  · rw [← hown]
    exact hgrown.names_eq
  · obtain ⟨hnoA, hnoB⟩ := @basis_copyOf name v e.scene.stage
    exact ⟨hnoA, hnoB, duplicates_copyOf_iff name _ hcaptioned⟩

/-- The scene that calls make in a new engine is tidy, if the random numbers are at least zero and
below one. -/
theorem Engine.tidy_callAll {draws : Draws} (hdraws : draws.Lawful) (files : Files)
    (calls : List (Bool × Call)) :
    ((Engine.fresh draws files).callAll calls).workspace.Tidy := by
  have hdrawn : Drawable (fun c => c ≤ Color.limit) draws := fun n =>
    Color.ofUnit_le (hdraws n).1 (hdraws n).2
  exact Engine.callAll_tidy calls _ ⟨⟨.empty _, rfl⟩, hdrawn, .empty⟩

/-- **Copies of vectors.** After any calls in a new engine that sees random numbers, each at least
zero and below one, every vector can be copied under every name that no vector has. The name is the
result. The copy stands behind the vectors that were there, which are as they were, and resembles
its vector. It is a duplicate just if the vector joins nothing: the copy of an arc does not have the
names of the vectors that the arc joins. -/
theorem call_duplicateVector {draws : Draws} (hdraws : draws.Lawful) (files : Files)
    (calls : List (Bool × Call)) {args : Args} {name key : String}
    (hname : args.get? "name" = some (.string name))
    (hkey : args.get? "vector" = some (.string key)) {i : Nat} {v : Scene.Vector}
    (hleads : ((Engine.fresh draws files).callAll calls).scene.vectors.Leads key i v)
    (hnew : name ∉ ((Engine.fresh draws files).callAll calls).scene.vectors.names)
    (surface : Bool) :
    let e := (Engine.fresh draws files).callAll calls
    let x := e.call Table.builtin surface ⟨"duplicateVector", args⟩
    x.1 = .ok (.string name) ∧ x.2.scene.vectors.names = e.scene.vectors.names ++ [name] ∧
      ∃ copy, x.2.scene.vectors.entities = e.scene.vectors.entities ++ [copy] ∧
        v.Resembles name copy ∧ copy.basisA = none ∧ copy.basisB = none ∧
        (v.Duplicates name copy ↔ v.basisA = none ∧ v.basisB = none) :=
  (Engine.tidy_callAll hdraws files calls).duplicates hname hkey hleads hnew surface

section Arcs

/-- The random numbers that the examples see. -/
def halfDraws : Draws := ⟨fun _ => 0.5, 0⟩

theorem halfDraws_lawful : halfDraws.Lawful := by
  have hhalf : (0 : Float) ≤ 0.5 ∧ (0.5 : Float) < 1 := by decide
  exact fun _ => hhalf

/-- The arguments with which the examples copy a vector. -/
def duplicateArgs (name key : String) : Args :=
  .ofList [("name", .string name), ("vector", .string key)]

theorem duplicateArgs_get? (name key : String) :
    (duplicateArgs name key).get? "name" = some (.string name) ∧
      (duplicateArgs name key).get? "vector" = some (.string key) :=
  ⟨(Args.get?_ofList (by simp) _).trans rfl, (Args.get?_ofList (by simp) _).trans rfl⟩

/-- Calls that make a vector which is not shown, and give it a label and then another name. -/
def renamedCalls : List (Bool × Call) :=
  [(false, ⟨"createVector", .ofList [("name", .string "a"), ("visible", .bool false),
      ("startPosition", .ofPoint ⟨0, 0, 0⟩), ("endPosition", .ofPoint ⟨0, 1, 0⟩)]⟩),
    (true, ⟨"setVectorDisplayText", .ofList [("vector", .string "$"),
      ("textToDisplay", .string "label")]⟩),
    (true, ⟨"renameVector", .ofList [("oldVectorName", .string "a"),
      ("newVectorName", .string "b")]⟩)]

/-- The copy of a vector that was given a label and another name is a duplicate. -/
theorem call_duplicateVector_renamed :
    let e := (Engine.fresh halfDraws {}).callAll renamedCalls
    let x := e.call Table.builtin false ⟨"duplicateVector", duplicateArgs "c" "$"⟩
    x.2.scene.vectors.names = ["b", "c"] ∧
      ∃ v copy, x.2.scene.vectors.entities = [v, copy] ∧ v.Duplicates "c" copy ∧
        copy.label = "label" ∧ copy.visible = false := by
  intro e x
  have hcomputed : (e.scene.vectors.names = ["b"] ∧ e.scene.vectors.resolve "$" = some "b") ∧
      e.scene.vectors.entities.map (fun v => (v.name, v.label, v.visible)) =
        [("b", "label", false)] ∧
      e.scene.vectors.entities.map (fun v => (v.basisA, v.basisB)) = [(none, none)] := by
    decide
  obtain ⟨⟨hnames, hkey⟩, hshown, hbasis⟩ := hcomputed
  obtain ⟨v, hentities, hv⟩ := List.map_eq_singleton_iff.1 hshown
  simp only [Prod.mk.injEq] at hv
  obtain ⟨hown, hlabel, hvisible⟩ := hv
  have hnone : v.basisA = none ∧ v.basisB = none := by simpa [hentities] using hbasis
  have hleads : e.scene.vectors.Leads "$" 0 v :=
    ⟨"b", hkey, by rw [hnames]; rfl, by rw [hentities]; rfl⟩
  obtain ⟨hname, hvector⟩ := duplicateArgs_get? "c" "$"
  obtain ⟨-, hnames', copy, hentities', -, -, -, hduplicates⟩ :=
    call_duplicateVector halfDraws_lawful {} renamedCalls hname hvector hleads
      (by rw [hnames]; decide) false
  have hcopy := hduplicates.2 hnone
  refine ⟨by rw [hnames', hnames]; rfl, v, copy, by rw [hentities', hentities]; rfl, hcopy, ?_, ?_⟩
  · rw [hcopy.resembles.label, hlabel, hown]
    rfl
  · rw [hcopy.resembles.visible, hvisible]

/-- Calls that make two vectors and the arc of their angle. -/
def arcCalls : List (Bool × Call) :=
  [(false, ⟨"createVector2", .ofList [("name", .string "a"),
      ("endPosition", .ofPoint ⟨1, 0, 0⟩)]⟩),
    (false, ⟨"createVector2", .ofList [("name", .string "b"),
      ("endPosition", .ofPoint ⟨0, 1, 0⟩)]⟩),
    (false, ⟨"angleBetweenVectors", .ofList [("vectorA", .string "a"),
      ("vectorB", .string "b")]⟩)]

/-- The copy of an arc does not join the vectors that the arc joins, and is no duplicate. -/
theorem arc_copied :
    let e := (Engine.fresh halfDraws {}).callAll arcCalls
    let x := e.call Table.builtin false ⟨"duplicateVector", duplicateArgs "c" "$"⟩
    e.scene.vectors.names = ["a", "b", "Result0"] ∧
      x.2.scene.vectors.names = ["a", "b", "Result0", "c"] ∧
      ∃ v copy, e.scene.vectors.Leads "$" 2 v ∧ v.basisA = some "a" ∧ v.basisB = some "b" ∧
        x.2.scene.vectors.entities[3]? = some copy ∧ copy.basisA = none ∧ copy.basisB = none ∧
        ¬v.Duplicates "c" copy := by
  intro e x
  have hcomputed : (e.scene.vectors.names = ["a", "b", "Result0"] ∧
      e.scene.vectors.resolve "$" = some "Result0") ∧
      e.scene.vectors.entities.map (fun v => (v.basisA, v.basisB)) =
        [(none, none), (none, none), (some "a", some "b")] := by decide
  obtain ⟨⟨hnames, hkey⟩, hbasis⟩ := hcomputed
  have hlength : e.scene.vectors.entities.length = 3 := by simpa using congrArg List.length hbasis
  obtain ⟨v, hv, hjoined⟩ : ∃ v, e.scene.vectors.entities[2]? = some v ∧
      (v.basisA, v.basisB) = (some "a", some "b") := by
    rw [← Option.map_eq_some_iff, ← List.getElem?_map, hbasis]
    rfl
  obtain ⟨ha, hb⟩ := Prod.mk.inj hjoined
  have hleads : e.scene.vectors.Leads "$" 2 v := ⟨"Result0", hkey, by rw [hnames]; rfl, hv⟩
  obtain ⟨hname, hvector⟩ := duplicateArgs_get? "c" "$"
  obtain ⟨-, hnames', copy, hcopied, -, hnoA, hnoB, hduplicates⟩ :=
    (Engine.tidy_callAll halfDraws_lawful {} arcCalls).duplicates hname hvector hleads
      (by rw [hnames]; decide) false
  refine ⟨hnames, by rw [hnames', hnames]; rfl, v, copy, hleads, ha, hb, ?_, hnoA, hnoB, ?_⟩
  · rw [hcopied, List.getElem?_append_right hlength.le, hlength]
    rfl
  · rw [hduplicates, ha]
    simp

end Arcs

end VectorScene.Command
