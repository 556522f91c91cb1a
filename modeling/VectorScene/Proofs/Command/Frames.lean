import VectorScene.Proofs.Command.Duplicates
import VectorScene.Proofs.Command.Putting

/-!
# Frames of vectors

Two commands build the frame that has a vector as its forward axis. They take the tip of the vector
for its direction, as if the vector started at the origin. So the frame is the one of the tip, and
there is none just if the tip is at the origin; this is the frame of the vector itself just if the
tip and the vector have the same direction.

## Main definitions

* `Frame.around`: the frame of a unit vector
* `Vector.FramedBy`: the frame that is meant, if there is one
* `frameSketches`: the two other axes as vectors

## Main results

* `Vector.framedBy_tip_iff`: when the frame of the tip is the one that is meant
* `Engine.call_refused`, `Engine.call_taken`: calls whose plan fails, or whose change finds a name
  taken
* `resultVectors_drawn`: vectors under generated names are those that were sketched
* `call_frames`: calls of the two commands
-/

namespace VectorScene.Geometry.Frame

variable {α : Type} [Scalar α]

/-- The frame that has a unit vector as its forward axis. -/
def around (forward position : Vec3 α) : Mat4 α :=
  .ofBasis (left forward) (up forward) forward position

theorem ofForward?_eq_map (direction : Vec3 α) (position : Option (Vec3 α)) :
    ofForward? direction position =
      direction.direction?.map fun forward => around forward (position.getD .zero) := by
  unfold ofForward?
  cases direction.direction? <;> rfl

/-- The axes and the position of a frame can be read off. -/
theorem around_axes (forward position : Vec3 α) :
    (around forward position).left = left forward ∧ (around forward position).up = up forward ∧
      (around forward position).forward = forward ∧
      (around forward position).position = position :=
  ⟨rfl, rfl, rfl, rfl⟩

end VectorScene.Geometry.Frame

namespace VectorScene.Geometry.Vec3

theorem toList_injective {α : Type} {a b : Vec3 α} (h : a.toList = b.toList) : a = b := by
  cases a
  cases b
  simpa [toList] using h

end VectorScene.Geometry.Vec3

namespace VectorScene.Scene.Vector

open VectorScene.Geometry

/-- The frame that is meant for a vector: there is one just if the vector has a direction, which is
the forward axis then. -/
structure FramedBy (v : Vector) (frame : Option Transform) : Prop where
  none_iff : frame = none ↔ v.displacement.direction? = none
  forward {t : Transform} : frame = some t → t.forward = v.normal

/-- **The frame of the tip** is the one that is meant just if the tip, seen from the origin, lies in
the direction of the vector. -/
theorem framedBy_tip_iff (v : Vector) (position : Option Point) :
    v.FramedBy (Frame.ofForward? v.tip position) ↔
      v.tip.direction? = v.displacement.direction? := by
  rw [Frame.ofForward?_eq_map]
  constructor
  · rintro ⟨hnone, hforward⟩
    cases htip : v.tip.direction? with
    | none =>
      rw [htip] at hnone
      exact (hnone.1 rfl).symm
    | some f =>
      rw [htip] at hnone hforward
      have hnormal : f = v.normal := hforward rfl
      cases hway : v.displacement.direction? with
      | none => cases hnone.2 hway
      | some f' => rw [hnormal, normal, hway, Option.getD_some]
  · intro h
    refine ⟨?_, fun {t} ht => ?_⟩
    · rw [h, Option.map_eq_none_iff]
    · obtain ⟨f, hf, rfl⟩ := Option.map_eq_some_iff.1 ht
      rw [normal, ← h, hf]
      rfl

end VectorScene.Scene.Vector

namespace VectorScene.Command

open VectorScene.Geometry Scene

/-! ### Calls that plan a change -/

section Calls

variable {e : Engine} {b : Builtin} {c : Call} {args : Args}
  (hget : Table.builtin.get? c.name = some b.command)
  (hvalid : c.args.validate b.definition.parameters = .ok args)

include hget hvalid

/-- A call whose plan fails does nothing. -/
theorem Engine.call_refused {fault : Error} (hplan : b.plan e.builtinView args = .error fault)
    (hfault : fault.lookup? = none) (surface : Bool) :
    e.call Table.builtin surface c = (.error fault, e) := by
  rw [call, nestingLimit, dispatch_builtin hget, hvalid]
  simp only [Builtin.settle, hplan]
  exact conclude_fault _ surface args hfault e

/-- A call whose change finds a name taken gives words for it. -/
theorem Engine.call_taken {change : Change}
    (hplan : b.plan e.builtinView args = .ok (.change change)) {kind : Kind} {name : String}
    (hrun : (change.run e.workspace).1 = .error (.duplicateName kind name)) (surface : Bool) :
    (e.call Table.builtin surface c).1 =
      .ok (.string (Scene.Error.duplicateName kind name).message) := by
  rw [call, nestingLimit, dispatch_builtin hget, hvalid]
  simp only [Builtin.settle, hplan, Plan.perform_change, hrun]
  have hlookup : (Error.scene (.duplicateName kind name)).lookup? =
      some (.duplicateName kind name) := rfl
  exact congrArg (·.1) (conclude_lookup _ surface args hlookup _)

end Calls

/-! ### Vectors under generated names -/

/-- A vector that was made from a sketch. -/
def Drawn (sketch : Sketch) (v : Scene.Vector) : Prop :=
  v.start = sketch.start ∧ v.tip = sketch.tip ∧ v.mode = sketch.options.mode.getD .vector

theorem nameResults_drawn (sketches : List Sketch) (w : Workspace) :
    List.Forall₂ Drawn sketches (Workspace.nameResults sketches w).1 := by
  induction sketches generalizing w with
  | nil => exact .nil
  | cons sketch rest ih => exact .cons ⟨rfl, rfl, rfl⟩ (ih _)

theorem Drawn.entered {sketch : Sketch} {v added : Scene.Vector} (h : Drawn sketch v)
    (hadded : Workspace.Entered v added) : Drawn sketch added := by
  obtain ⟨s, rfl⟩ := hadded
  have henter : Entity.enter v s = v.enter s := rfl
  rw [henter, Scene.Vector.enter_eq]
  exact h

theorem drawn_entered {sketches : List Sketch} {xs added : List Scene.Vector}
    (h : List.Forall₂ Drawn sketches xs) (hadded : List.Forall₂ Workspace.Entered xs added) :
    List.Forall₂ Drawn sketches added := by
  induction h generalizing added with
  | nil =>
    cases hadded
    exact .nil
  | cons hfirst _ ih =>
    cases hadded with
    | cons hentered hrest =>
      exact .cons (hfirst.entered hentered) (ih hrest)

/-- **Vectors under generated names** are those of their sketches, if none of the names is taken,
and stand behind the vectors that were there. -/
theorem resultVectors_drawn {w : Workspace} {vs : List Scene.Vector} {ms : List Scene.Matrix}
    (hvs : w.scene.vectors.Lists vs) (hms : w.scene.matrices.Lists ms) {sketches : List Sketch}
    (hfree : (Yield.several .results sketches.length).taken? w.scene = none) :
    ((Change.resultVectors sketches).run w).1 =
        .ok ((Yield.several .results sketches.length).value w.scene) ∧
      ∃ added, List.Forall₂ Drawn sketches added ∧
        ((Change.resultVectors sketches).run w).2.scene.vectors.entities =
          w.scene.vectors.entities ++ added := by
  have hyield : (Change.resultVectors sketches).yield? =
      some (.several .results sketches.length) := rfl
  have hmade := Change.run_yield hvs hms hyield
  rw [hfree] at hmade
  refine ⟨hmade.1, ?_⟩
  have hnames := Workspace.nameResults_names sketches w
  have hscene := Workspace.nameResults_scene sketches w
  have hdrawn := nameResults_drawn sketches w
  have hrun : (Change.resultVectors sketches).run w =
      (Workspace.nameResults sketches w).2.addVectors (Workspace.nameResults sketches w).1 := rfl
  rw [hrun]
  generalize Workspace.nameResults sketches w = named at hnames hscene hdrawn
  obtain ⟨xs, w'⟩ := named
  simp only at hnames hscene hdrawn ⊢
  -- naming the vectors changed no registry
  have hvectors : w'.scene.vectors = w.scene.vectors := by
    rw [hscene]
    rfl
  have hnodup : (Roster.names xs).Nodup := hnames ▸ Counter.nodup_names .results _ _
  have hfree' : (Roster.names xs).find? (fun name => name ∈ w'.scene.vectors.names) = none := by
    rw [hvectors, hnames]
    exact hfree
  rcases Workspace.addVectors_cases (hvectors ▸ hvs) (hnames ▸ Counter.literal_names) hnodup with
    ⟨name, hfind, -⟩ | ⟨-, added, r, t, stale, hadd, hentered, hgrown⟩
  · rw [hfree'] at hfind
    cases hfind
  · -- the new vectors stand last, since none of them has the name of one that was there
    have hnew : ∀ name ∈ Roster.names xs, name ∉ Roster.names vs := by
      intro name hname
      rw [← hvs.shows.names, ← hvectors]
      simpa using List.find?_eq_none.1 hfree' name hname
    have hdiffer : (Roster.names (vs ++ added)).Nodup :=
      nodup_names_append hvs.nodup (Workspace.names_entered hentered) hnodup hnew
    refine ⟨added, drawn_entered hdrawn hentered, ?_⟩
    rw [hadd]
    exact (hvectors ▸ hgrown).entities_eq hvs hdiffer

/-! ### The commands -/

/-- The left and the up axis of the frame of a unit vector, where a vector starts. -/
def frameSketches (v : Scene.Vector) (forward : Point) : List Sketch :=
  [⟨v.start, Frame.left forward, { mode := some v.mode }⟩,
    ⟨v.start, Frame.up forward, { mode := some v.mode }⟩]

theorem drawn_frameSketches {v : Scene.Vector} {forward : Point} {added : List Scene.Vector}
    (h : List.Forall₂ Drawn (frameSketches v forward) added) :
    ∃ left up, added = [left, up] ∧ left.start = v.start ∧ left.tip = Frame.left forward ∧
      up.start = v.start ∧ up.tip = Frame.up forward := by
  obtain ⟨left, rest, hleft, hrest, rfl⟩ := List.forall₂_cons_left_iff.1 h
  obtain ⟨up, others, hup, hothers, rfl⟩ := List.forall₂_cons_left_iff.1 hrest
  obtain rfl := List.forall₂_nil_left_iff.1 hothers
  exact ⟨left, up, rfl, hleft.1, hleft.2.1, hup.1, hup.2.1⟩

section Commands

variable {e : Engine} {vs : List Scene.Vector} {ms : List Scene.Matrix} {args : Args}
  {name key : String} {i : Nat} {v : Scene.Vector} (hvs : e.scene.vectors.Lists vs)
  (hkey : args.get? "vector" = some (.string key)) (hleads : e.scene.vectors.Leads key i v)

include hvs hkey hleads

theorem createAxisFromVector_plan :
    Builtin.createAxisFromVector.plan e.builtinView args = match v.tip.direction? with
      | none => .error (.argument "vector" .noAxis)
      | some forward => .ok (.change (.resultVectors (frameSketches v forward))) := by
  have hread := View.vector_of_leads hvs hkey hleads
  simp only [Builtin.createAxisFromVector, hread, bind, Except.bind, Frame.ofForward?_eq_map]
  cases v.tip.direction? <;> rfl

theorem createMatrixFromForwardVector_plan (hname : args.get? "name" = some (.string name)) :
    Builtin.createMatrixFromForwardVector.plan e.builtinView args = match v.tip.direction? with
      | none => .error (.argument "vector" .noForward)
      | some forward => .ok (.change (.putMatrix name (Frame.around forward v.start))) := by
  have hread := View.vector_of_leads hvs hkey hleads
  simp only [Builtin.createMatrixFromForwardVector, hread, Args.string_of_get? hname, bind,
    Except.bind, Frame.ofForward?_eq_map]
  cases v.tip.direction? <;> rfl

/-- **The axes of a vector**: without a direction of the tip nothing happens, and otherwise the two
axes are made unless a generated name is taken. -/
theorem call_createAxisFromVector (hms : e.scene.matrices.Lists ms) (surface : Bool) :
    let x := e.call Table.builtin surface ⟨"createAxisFromVector", args⟩
    match v.tip.direction? with
    | none => x = (.error (.argument "vector" .noAxis), e)
    | some forward => x.1.isOk ∧ ((Yield.several .results 2).taken? e.scene = none →
        x.1 = .ok ((Yield.several .results 2).value e.scene) ∧
        ∃ left up, x.2.scene.vectors.entities = e.scene.vectors.entities ++ [left, up] ∧
          left.start = v.start ∧ left.tip = Frame.left forward ∧
          up.start = v.start ∧ up.tip = Frame.up forward) := by
  intro x
  have hget : Table.builtin.get? "createAxisFromVector" =
      some Builtin.createAxisFromVector.command := rfl
  have hvalid : args.validate Builtin.createAxisFromVector.definition.parameters =
      .ok args.present := by
    refine Args.validate_of_accepts (List.forall_mem_singleton.2 ?_)
    exact ⟨_, hkey, rfl⟩
  have hplan := createAxisFromVector_plan hvs ((args.get?_present _).trans hkey) hleads
  cases htip : v.tip.direction? with
  | none =>
    rw [htip] at hplan
    exact Engine.call_refused hget hvalid hplan rfl surface
  | some forward =>
    rw [htip] at hplan
    have hyield : (Change.resultVectors (frameSketches v forward)).yield? =
        some (.several .results 2) := rfl
    have hrun := Change.run_yield (w := e.workspace) hvs hms hyield
    have hscene : e.workspace.scene = e.scene := rfl
    rw [hscene] at hrun
    cases hfree : (Yield.several .results 2).taken? e.scene with
    | some name =>
      -- the call ends with words for the name that is taken, which is no error
      rw [hfree] at hrun
      have hresult := Engine.call_taken (c := ⟨"createAxisFromVector", args⟩) hget hvalid hplan
        hrun.1 surface
      exact ⟨congrArg Except.isOk hresult, nofun⟩
    | none =>
      have hfree' : (Yield.several .results (frameSketches v forward).length).taken?
          e.workspace.scene = none := hfree
      obtain ⟨hresult, added, hdrawn, hentities⟩ := resultVectors_drawn hvs hms hfree'
      obtain ⟨e', hcall, hworkspace⟩ := Engine.call_change
        (c := ⟨"createAxisFromVector", args⟩) hget hvalid hplan (Prod.ext hresult rfl) surface
      have hx : x = _ := hcall
      have hscene' : e'.scene = _ := congrArg Workspace.scene hworkspace
      obtain ⟨left, up, rfl, hshape⟩ := drawn_frameSketches hdrawn
      rw [hx]
      refine ⟨rfl, fun _ => ⟨rfl, left, up, ?_, hshape⟩⟩
      rw [hscene']
      exact hentities

/-- **The frame of a vector**: without a direction of the tip nothing happens, and otherwise the
frame is put under its name, unless the name hides a matrix. -/
theorem call_createMatrixFromForwardVector (hms : e.scene.matrices.Lists ms)
    (hname : args.get? "name" = some (.string name)) (surface : Bool) :
    let x := e.call Table.builtin surface ⟨"createMatrixFromForwardVector", args⟩
    match v.tip.direction? with
    | none => x = (.error (.argument "vector" .noForward), e)
    | some forward => x.1.isOk ∧ (¬e.scene.matrices.Hides name → x.1 = .ok (.string name) ∧
        e.scene.matrices.Placed (namedMatrix name (Frame.around forward v.start))
          x.2.scene.matrices) := by
  intro x
  have hget : Table.builtin.get? "createMatrixFromForwardVector" =
      some Builtin.createMatrixFromForwardVector.command := rfl
  have hvalid : args.validate Builtin.createMatrixFromForwardVector.definition.parameters =
      .ok args.present := by
    refine Args.validate_of_accepts (List.forall_mem_cons.2
      ⟨⟨_, hname, rfl⟩, List.forall_mem_singleton.2 ⟨_, hkey, rfl⟩⟩)
  have hplan := createMatrixFromForwardVector_plan hvs ((args.get?_present _).trans hkey) hleads
    ((args.get?_present _).trans hname)
  cases htip : v.tip.direction? with
  | none =>
    rw [htip] at hplan
    exact Engine.call_refused hget hvalid hplan rfl surface
  | some forward =>
    rw [htip] at hplan
    by_cases hides : e.scene.matrices.Hides name
    · have hresult := Engine.call_taken (c := ⟨"createMatrixFromForwardVector", args⟩) hget hvalid
        hplan (putMatrix_refused hms hides _) surface
      exact ⟨congrArg Except.isOk hresult, fun h => absurd hides h⟩
    · obtain ⟨hresult, hplaced⟩ := putMatrix_granted hms hides (Frame.around forward v.start)
      obtain ⟨e', hcall, hworkspace⟩ := Engine.call_change
        (c := ⟨"createMatrixFromForwardVector", args⟩) hget hvalid hplan (Prod.ext hresult rfl)
        surface
      have hx : x = _ := hcall
      have hscene' : e'.scene = _ := congrArg Workspace.scene hworkspace
      rw [hx]
      refine ⟨rfl, fun _ => ⟨rfl, ?_⟩⟩
      rw [hscene']
      exact hplaced

end Commands

/-- A call fails on an argument. -/
def FailsOnArgument (result : Except Error Value) : Prop :=
  ∃ parameter reason, result = .error (.argument parameter reason)

theorem not_failsOnArgument {result : Except Error Value} (h : result.isOk) :
    ¬FailsOnArgument result := by
  rintro ⟨parameter, reason, rfl⟩
  cases h

/-! ### A call -/

/-- **Frames of vectors.** What the two commands build for a vector is the frame of its tip: the
forward axis is the direction of the tip, seen from the origin. It is the frame that is meant just
if this is the direction of the vector. A call of either command fails on its argument, and does
nothing, just if there is no frame. Otherwise the one command makes the left and the up axis of the
frame as vectors at the start of the vector, unless a generated name is taken, and the other one
puts the frame there under the name that it is given, unless the name hides a matrix. -/
theorem call_frames {e : Engine} (he : e.Reachable) {args : Args} {name key : String}
    (hname : args.get? "name" = some (.string name))
    (hkey : args.get? "vector" = some (.string key)) {i : Nat} {v : Scene.Vector}
    (hleads : e.scene.vectors.Leads key i v) (surface : Bool) :
    let axes := e.call Table.builtin surface ⟨"createAxisFromVector", args⟩
    let frame := e.call Table.builtin surface ⟨"createMatrixFromForwardVector", args⟩
    let built := Frame.ofForward? v.tip (some v.start)
    built.map (·.forward) = v.tip.direction? ∧
      (v.FramedBy built ↔ v.tip.direction? = v.displacement.direction?) ∧
      (FailsOnArgument axes.1 ↔ built = none) ∧ (FailsOnArgument frame.1 ↔ built = none) ∧
      (built = none → axes.2 = e ∧ frame.2 = e) ∧
      ∀ t, built = some t →
        ((Yield.several .results 2).taken? e.scene = none →
          axes.1 = .ok ((Yield.several .results 2).value e.scene) ∧
          ∃ left up, axes.2.scene.vectors.entities = e.scene.vectors.entities ++ [left, up] ∧
            left.start = v.start ∧ left.tip = t.left ∧ up.start = v.start ∧ up.tip = t.up) ∧
        (¬e.scene.matrices.Hides name → frame.1 = .ok (.string name) ∧
          e.scene.matrices.Placed (namedMatrix name t) frame.2.scene.matrices) := by
  intro axes frame built
  obtain ⟨vs, -, hvs, -⟩ := he.sane.vectors.rosters
  obtain ⟨ms, -, hms, -⟩ := he.sane.matrices.rosters
  have haxes := call_createAxisFromVector hvs hkey hleads hms surface
  have hframe := call_createMatrixFromForwardVector hvs hkey hleads hms hname surface
  have hbuilt : built = v.tip.direction?.map fun forward => Frame.around forward v.start :=
    Frame.ofForward?_eq_map v.tip (some v.start)
  refine ⟨?_, v.framedBy_tip_iff _, ?_⟩
  · rw [hbuilt, Option.map_map]
    exact Option.map_id'
  cases htip : v.tip.direction? with
  | none =>
    rw [htip] at haxes hframe hbuilt
    have haxes : axes = _ := haxes
    have hframe : frame = _ := hframe
    rw [hbuilt, haxes, hframe]
    exact ⟨iff_of_true ⟨_, _, rfl⟩ rfl, iff_of_true ⟨_, _, rfl⟩ rfl, fun _ => ⟨rfl, rfl⟩, nofun⟩
  | some forward =>
    rw [htip] at haxes hframe hbuilt
    obtain ⟨haxesok, hmade⟩ := haxes
    obtain ⟨hframeok, hput⟩ := hframe
    rw [hbuilt]
    refine ⟨iff_of_false (not_failsOnArgument haxesok) nofun,
      iff_of_false (not_failsOnArgument hframeok) nofun, nofun, ?_⟩
    rintro t ⟨⟩
    exact ⟨hmade, hput⟩

section Starts

theorem Engine.Reachable.callAll {e : Engine} (he : e.Reachable) (calls : List (Bool × Call)) :
    (e.callAll calls).Reachable := by
  induction calls generalizing e with
  | nil => exact he
  | cons c rest ih => exact ih (.call c.1 c.2 he)

/-- The call that makes a vector from its two ends. -/
def vectorCall (name : String) (start tip : Point) : Bool × Call :=
  (false, ⟨"createVector", .ofList [("name", .string name), ("startPosition", .ofPoint start),
    ("endPosition", .ofPoint tip)]⟩)

/-- The vectors of the examples by name, with their starts and tips: one that starts at the origin,
and others that start elsewhere, of which one has no direction, one has its tip at the origin, and
one is parallel to an axis. -/
def examples : List (String × Point × Point) :=
  [("home", ⟨0, 0, 0⟩, ⟨0, 0, 2⟩), ("still", ⟨1, 0, 0⟩, ⟨1, 0, 0⟩),
    ("back", ⟨1, 0, 0⟩, ⟨0, 0, 0⟩), ("ahead", ⟨1, 0, 0⟩, ⟨1, 0, 1⟩)]

/-- An engine with these vectors. -/
def examplesEngine : Engine :=
  (Engine.fresh halfDraws {}).callAll (examples.map fun x => vectorCall x.1 x.2.1 x.2.2)

theorem examplesEngine_reachable : examplesEngine.Reachable :=
  Engine.Reachable.callAll (.start halfDraws {}) _

theorem examplesEngine_leads {i : Nat} {name : String} {start tip : Point}
    (h : examples[i]? = some (name, start, tip)) :
    ∃ v, examplesEngine.scene.vectors.Leads name i v ∧ v.start = start ∧ v.tip = tip := by
  have hcomputed : examplesEngine.scene.vectors.names = examples.map (·.1) ∧
      (∀ x ∈ examples, examplesEngine.scene.vectors.resolve x.1 = some x.1) ∧
      examplesEngine.scene.vectors.entities.map (fun v => (v.start.toList, v.tip.toList)) =
        examples.map (fun x => (x.2.1.toList, x.2.2.toList)) := by decide
  obtain ⟨hnames, hresolve, hpoints⟩ := hcomputed
  obtain ⟨v, hv, hends⟩ : ∃ v, examplesEngine.scene.vectors.entities[i]? = some v ∧
      (v.start.toList, v.tip.toList) = (start.toList, tip.toList) := by
    rw [← Option.map_eq_some_iff, ← List.getElem?_map, hpoints, List.getElem?_map, h]
    rfl
  obtain ⟨hstart, htip⟩ := Prod.mk.inj hends
  refine ⟨v, ⟨name, hresolve _ (List.mem_of_getElem? h), ?_, hv⟩,
    Vec3.toList_injective hstart, Vec3.toList_injective htip⟩
  rw [hnames, List.getElem?_map, h]
  rfl

/-- The arguments with which the examples make a frame. -/
def frameArgs (key : String) : Args := .ofList [("name", .string "m"), ("vector", .string key)]

theorem frameArgs_get? (key : String) : (frameArgs key).get? "name" = some (.string "m") ∧
    (frameArgs key).get? "vector" = some (.string key) :=
  ⟨(Args.get?_ofList (by simp) _).trans rfl, (Args.get?_ofList (by simp) _).trans rfl⟩

/-- The frame of a vector that starts at the origin is the one that is meant. -/
theorem call_frames_home :
    examplesEngine.Reachable ∧ ∃ v t, examplesEngine.scene.vectors.Leads "home" 0 v ∧
      v.FramedBy (some t) ∧
      (examplesEngine.call Table.builtin false
        ⟨"createAxisFromVector", frameArgs "home"⟩).1 = .ok (.ofStrings ["Result0", "Result1"]) ∧
      (examplesEngine.call Table.builtin false
        ⟨"createMatrixFromForwardVector", frameArgs "home"⟩).1 = .ok (.string "m") ∧
      examplesEngine.scene.matrices.Placed (namedMatrix "m" t)
        (examplesEngine.call Table.builtin false
          ⟨"createMatrixFromForwardVector", frameArgs "home"⟩).2.scene.matrices := by
  have he := examplesEngine_reachable
  obtain ⟨v, hleads, hstart, htip⟩ := examplesEngine_leads (i := 0) rfl
  obtain ⟨hname, hkey⟩ := frameArgs_get? "home"
  obtain ⟨hforward, hmeant, -, -, -, hmade⟩ := call_frames he hname hkey hleads false
  have hcomputed : (((⟨0, 0, 2⟩ : Point) - ⟨0, 0, 0⟩).toList = (⟨0, 0, 2⟩ : Point).toList ∧
      (⟨0, 0, 2⟩ : Point).direction?.isSome) ∧
      (Yield.several .results 2).taken? examplesEngine.scene = none ∧
      (Yield.several .results 2).names examplesEngine.scene = ["Result0", "Result1"] ∧
      "m" ∉ examplesEngine.scene.matrices.names := by decide +kernel
  obtain ⟨⟨hway, hsome⟩, hfree, hnames, hnew⟩ := hcomputed
  have hsame : v.displacement = v.tip := by
    rw [Scene.Vector.displacement, hstart, htip]
    exact Vec3.toList_injective hway
  rw [← htip, ← hforward, Option.isSome_map] at hsome
  obtain ⟨t, ht⟩ := Option.isSome_iff_exists.1 hsome
  obtain ⟨hAxes, hFrame⟩ := hmade t ht
  obtain ⟨hresult, hplaced⟩ := hFrame fun hides => hnew hides.1
  refine ⟨he, v, t, hleads, ?_, ?_, hresult, hplaced⟩
  · rw [← ht]
    exact hmeant.2 (by rw [hsame])
  · refine (hAxes hfree).1.trans ?_
    rw [Yield.value, hnames]

/-- Vectors that start elsewhere: one without a direction has axes, one with a direction has none,
and the forward axis of one is not its direction. -/
theorem frames_elsewhere :
    let call name key := examplesEngine.call Table.builtin false ⟨name, frameArgs key⟩
    examplesEngine.Reachable ∧
      (∃ v, examplesEngine.scene.vectors.Leads "still" 1 v ∧ v.displacement.direction? = none ∧
        (call "createAxisFromVector" "still").1.isOk ∧
        (call "createMatrixFromForwardVector" "still").1.isOk) ∧
      (∃ v, examplesEngine.scene.vectors.Leads "back" 2 v ∧ v.displacement.direction?.isSome ∧
        (call "createAxisFromVector" "back").1 = .error (.argument "vector" .noAxis) ∧
        (call "createMatrixFromForwardVector" "back").1 =
          .error (.argument "vector" .noForward)) ∧
      ∃ v m, examplesEngine.scene.vectors.Leads "ahead" 3 v ∧
        (call "createMatrixFromForwardVector" "ahead").2.scene.matrices.entities = [m] ∧
        m.transform.forward ≠ v.normal := by
  intro call
  have he := examplesEngine_reachable
  obtain ⟨vs, -, hvs, -⟩ := he.sane.vectors.rosters
  obtain ⟨ms, -, hms, -⟩ := he.sane.matrices.rosters
  refine ⟨he, ?_, ?_, ?_⟩
  · obtain ⟨v, hleads, hstart, htip⟩ := examplesEngine_leads (i := 1) rfl
    have hcomputed : ((⟨1, 0, 0⟩ : Point) - ⟨1, 0, 0⟩).direction?.isNone ∧
        (call "createAxisFromVector" "still").1.isOk ∧
        (call "createMatrixFromForwardVector" "still").1.isOk := by decide +kernel
    refine ⟨v, hleads, ?_, hcomputed.2⟩
    rw [Scene.Vector.displacement, hstart, htip]
    exact Option.isNone_iff_eq_none.1 hcomputed.1
  · obtain ⟨v, hleads, hstart, htip⟩ := examplesEngine_leads (i := 2) rfl
    obtain ⟨hname, hkey⟩ := frameArgs_get? "back"
    have hcomputed : ((⟨0, 0, 0⟩ : Point) - ⟨1, 0, 0⟩).direction?.isSome ∧
        (⟨0, 0, 0⟩ : Point).direction?.isNone := by decide +kernel
    have hnone : v.tip.direction? = none := by
      rw [htip]
      exact Option.isNone_iff_eq_none.1 hcomputed.2
    have haxes := call_createAxisFromVector hvs hkey hleads hms false
    have hframe := call_createMatrixFromForwardVector hvs hkey hleads hms hname false
    rw [hnone] at haxes hframe
    refine ⟨v, hleads, ?_, congrArg Prod.fst haxes, congrArg Prod.fst hframe⟩
    rw [Scene.Vector.displacement, hstart, htip]
    exact hcomputed.1
  · obtain ⟨v, hleads, hstart, htip⟩ := examplesEngine_leads (i := 3) rfl
    have hcomputed : (((⟨1, 0, 1⟩ : Point) - ⟨1, 0, 0⟩).direction?.getD .zero).toList = [0, 0, 1] ∧
        (call "createMatrixFromForwardVector" "ahead").2.scene.matrices.entities.map
          (fun m => decide (m.transform.forward.toList = [0, 0, 1])) = [false] := by
      decide +kernel
    obtain ⟨hnormal, hforward⟩ := hcomputed
    obtain ⟨m, hm, hother⟩ := List.map_eq_singleton_iff.1 hforward
    refine ⟨v, m, hleads, hm, fun hsame => of_decide_eq_false hother ?_⟩
    rw [hsame, Scene.Vector.normal, Scene.Vector.displacement, hstart, htip]
    exact hnormal

end Starts

end VectorScene.Command
