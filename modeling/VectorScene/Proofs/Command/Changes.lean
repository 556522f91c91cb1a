import VectorScene.Command.Change
import VectorScene.Proofs.Scene.Likeness

/-!
# Changes of like scenes, and changes that fail

A change does the same to scenes that are alike, and what it takes from the stream of random numbers
is the same. A change that fails does so because a name is taken or not found, and leaves everything
of the scene but the numbers of the next generated names.

## Main definitions

* `Workspace.Alike`: like scenes, and the same stream
* `Change.Colored`: the colors that a change chooses are of some kind
* `Workspace.Spared`: nothing but generated names and random numbers was used up

## Main results

* `Change.run_alike`: a change of like scenes
* `Change.run_error`: a change that fails
-/

namespace VectorScene.Command

open VectorScene.Geometry Scene

variable {C : Color → Prop}

/-! ### Colors -/

/-- The colors that are made from the numbers of a stream are of some kind. -/
def Drawable (C : Color → Prop) (draws : Draws) : Prop := ∀ n, C (.ofUnit (draws.stream n))

/-- The color of a sketch is of some kind, if there is one. -/
def Sketch.Colored (C : Color → Prop) (s : Sketch) : Prop := ∀ c ∈ s.options.color, C c

/-- The colors that a change chooses are of some kind. -/
def Change.Colored (C : Color → Prop) : Change → Prop
  | .resultVector sketch | .newVector _ sketch | .replaceVector _ _ sketch _ => sketch.Colored C
  | .resultVectors sketches => ∀ sketch ∈ sketches, sketch.Colored C
  | _ => True

namespace Sketch

theorem draw_stream (s : Sketch) (name : String) (draws : Draws) :
    (s.draw name draws).2.stream = draws.stream := by
  unfold draw Scene.Vector.draw Scene.Vector.Options.colorFrom
  cases s.options.color <;> rfl

theorem draw_position (s : Sketch) (name : String) (draws : Draws) :
    draws.position ≤ (s.draw name draws).2.position := by
  unfold draw Scene.Vector.draw Scene.Vector.Options.colorFrom
  cases s.options.color with
  | some c => exact Nat.le_refl _
  | none => exact Nat.le_succ _

theorem draw_name (s : Sketch) (name : String) (draws : Draws) :
    (s.draw name draws).1.name = name := by
  unfold draw Scene.Vector.draw
  rfl

theorem draw_color {s : Sketch} (hs : s.Colored C) {draws : Draws} (hdraws : Drawable C draws)
    (name : String) : C (s.draw name draws).1.color := by
  unfold draw Scene.Vector.draw Scene.Vector.Options.colorFrom
  cases hc : s.options.color with
  | some c => exact hs c hc
  | none => exact hdraws draws.position

end Sketch

namespace Workspace

/-- Like scenes, and the same stream of random numbers. -/
structure Alike (C : Color → Prop) (w w' : Workspace) : Prop where
  scene : w.scene.Alike C w'.scene
  draws : w.draws = w'.draws

variable {w w' : Workspace}

theorem Alike.trans {w'' : Workspace} (h : w.Alike C w') (h' : w'.Alike C w'') : w.Alike C w'' :=
  ⟨h.scene.trans h'.scene, h.draws.trans h'.draws⟩

theorem Alike.finish (h : w.Alike C w') {x x' : Except Scene.Error Scene.State}
    (hx : Agree (State.Alike C) x x') (result : Value) :
    (w.finish x result).1 = (w'.finish x' result).1 ∧
      (w.finish x result).2.Alike C (w'.finish x' result).2 := by
  cases hx with
  | ok hs => exact ⟨rfl, { hs with }, h.draws⟩
  | error fault => exact ⟨rfl, h⟩

theorem Alike.nextResultName (h : w.Alike C w') :
    w.scene.nextResultName.1 = w'.scene.nextResultName.1 ∧
      Alike C { w with scene := w.scene.nextResultName.2 }
        { w' with scene := w'.scene.nextResultName.2 } :=
  ⟨congrArg State.resultName h.scene.resultCount,
    { h.scene with resultCount := congrArg (· + 1) h.scene.resultCount }, h.draws⟩

theorem addVector_eq (w : Workspace) (name : String) (sketch : Sketch) :
    w.addVector name sketch =
      { w with draws := (sketch.draw name w.draws).2 }.finish
        (w.scene.createVector (sketch.draw name w.draws).1) (.string name) := rfl

theorem Alike.addVector (h : w.Alike C w') (hdraws : Drawable C w.draws) {sketch : Sketch}
    (hs : sketch.Colored C) (name : String) :
    (w.addVector name sketch).1 = (w'.addVector name sketch).1 ∧
      (w.addVector name sketch).2.Alike C (w'.addVector name sketch).2 := by
  have hcolor := Sketch.draw_color hs hdraws name
  rw [addVector_eq, addVector_eq, ← h.draws]
  have hdrawn : Alike C { w with draws := (sketch.draw name w.draws).2 }
      { w' with draws := (sketch.draw name w.draws).2 } := ⟨h.scene, rfl⟩
  exact hdrawn.finish (h.scene.createVector hcolor) _

theorem Alike.addMatrix (h : w.Alike C w') (name : String) (transform : Transform) :
    (w.addMatrix name transform).1 = (w'.addMatrix name transform).1 ∧
      (w.addMatrix name transform).2.Alike C (w'.addMatrix name transform).2 :=
  h.finish (h.scene.createMatrix _) _

/-! ### Vectors one after another -/

theorem Alike.clash?_eq (h : w.Alike C w') (before : List String) (vs : List Scene.Vector) :
    clash? w.scene before vs = clash? w'.scene before vs := by
  induction vs generalizing before with
  | nil => rfl
  | cons v rest ih => simp only [clash?, h.scene.vectors.contains_eq, ih]

theorem createAll_alike {s s' : Scene.State} (h : s.Alike C s') {vs : List Scene.Vector}
    (hvs : ∀ v ∈ vs, C v.color) :
    (createAll vs s).1 = (createAll vs s').1 ∧
      (createAll vs s).2.Alike C (createAll vs s').2 := by
  induction vs generalizing s s' with
  | nil => exact ⟨rfl, h⟩
  | cons v rest ih =>
    obtain ⟨hv, hrest⟩ := List.forall_mem_cons.1 hvs
    have hcreate := h.createVector hv
    unfold createAll
    generalize s.createVector v = x, s'.createVector v = x' at hcreate ⊢
    cases hcreate with
    | ok hnext => exact ih hnext hrest
    | error fault => exact ⟨rfl, h⟩

theorem Alike.addVectors (h : w.Alike C w') {vs : List Scene.Vector} (hvs : ∀ v ∈ vs, C v.color) :
    (w.addVectors vs).1 = (w'.addVectors vs).1 ∧
      (w.addVectors vs).2.Alike C (w'.addVectors vs).2 := by
  unfold Workspace.addVectors
  -- the test finds the same name taken, or none
  rw [h.clash?_eq]
  cases clash? w'.scene [] vs with
  | some name => exact ⟨rfl, h⟩
  | none =>
    obtain ⟨hresult, hscene⟩ := createAll_alike h.scene hvs
    cases hc : createAll vs w.scene with
    | mk result scene =>
      cases hc' : createAll vs w'.scene with
      | mk result' scene' =>
        rw [hc, hc'] at hresult hscene
        simp only at hresult hscene
        subst hresult
        cases result with
        | error fault => exact ⟨rfl, hscene, h.draws⟩
        | ok _ =>
          refine ⟨rfl, ?_, h.draws⟩
          by_cases hempty : vs.isEmpty
          · simpa [hempty] using hscene
          · simpa [hempty] using { hscene with }

theorem Alike.nameResults (h : w.Alike C w') (hdraws : Drawable C w.draws)
    {sketches : List Sketch} (hs : ∀ sketch ∈ sketches, sketch.Colored C) :
    (nameResults sketches w).1 = (nameResults sketches w').1 ∧
      (∀ v ∈ (nameResults sketches w).1, C v.color) ∧
      (nameResults sketches w).2.Alike C (nameResults sketches w').2 := by
  induction sketches generalizing w w' with
  | nil => exact ⟨rfl, by simp [Workspace.nameResults], h⟩
  | cons sketch rest ih =>
    obtain ⟨hsketch, hrest⟩ := List.forall_mem_cons.1 hs
    obtain ⟨scene, draws⟩ := w
    obtain ⟨scene', draws'⟩ := w'
    obtain rfl : draws = draws' := h.draws
    have hcount : scene.resultCount = scene'.resultCount := h.scene.resultCount
    -- both take the same name and the same color, and go on at the same place of the stream
    have hdrawn := Sketch.draw_stream sketch (State.resultName scene'.resultCount) draws
    simp only [Workspace.nameResults, State.nextResultName, hcount]
    have hnext : Alike C
        ⟨{ scene with resultCount := scene'.resultCount + 1 },
          (sketch.draw (State.resultName scene'.resultCount) draws).2⟩
        ⟨{ scene' with resultCount := scene'.resultCount + 1 },
          (sketch.draw (State.resultName scene'.resultCount) draws).2⟩ :=
      ⟨{ h.scene with resultCount := rfl }, rfl⟩
    obtain ⟨hnames, hcolors, halike⟩ := ih hnext (by rw [Drawable, hdrawn]; exact hdraws) hrest
    refine ⟨by rw [hnames], ?_, halike⟩
    exact List.forall_mem_cons.2 ⟨Sketch.draw_color hsketch hdraws _, hcolors⟩

theorem randomTip_stream (length : Float) (unit : Bool) (draws : Draws) :
    (randomTip length unit draws).2.stream = draws.stream := by
  unfold randomTip
  cases unit <;> rfl

theorem randomTip_position (length : Float) (unit : Bool) (draws : Draws) :
    draws.position ≤ (randomTip length unit draws).2.position := by
  unfold randomTip
  cases unit
  · exact Nat.le_add_right draws.position 4
  · exact Nat.le_add_right draws.position 3

theorem Alike.nameRandoms (h : w.Alike C w') (hdraws : Drawable C w.draws) (length : Float)
    (unit : Bool) (mode : RenderMode) (count : Nat) :
    (nameRandoms length unit mode count w).1 = (nameRandoms length unit mode count w').1 ∧
      (∀ v ∈ (nameRandoms length unit mode count w).1, C v.color) ∧
      (nameRandoms length unit mode count w).2.Alike C
        (nameRandoms length unit mode count w').2 := by
  induction count generalizing w w' with
  | zero => exact ⟨rfl, by simp [Workspace.nameRandoms], h⟩
  | succ count ih =>
    obtain ⟨scene, draws⟩ := w
    obtain ⟨scene', draws'⟩ := w'
    obtain rfl : draws = draws' := h.draws
    have hcount : scene.randomCount = scene'.randomCount := h.scene.randomCount
    have hdrawn := randomTip_stream length unit draws.next.2
    simp only [Workspace.nameRandoms, State.nextRandomName, hcount]
    have hnext : Alike C
        ⟨{ scene with randomCount := scene'.randomCount + 1 },
          (randomTip length unit draws.next.2).2⟩
        ⟨{ scene' with randomCount := scene'.randomCount + 1 },
          (randomTip length unit draws.next.2).2⟩ :=
      ⟨{ h.scene with randomCount := rfl }, rfl⟩
    obtain ⟨hnames, hcolors, halike⟩ := ih hnext (by rw [Drawable, hdrawn]; exact hdraws)
    refine ⟨by rw [hnames], ?_, halike⟩
    exact List.forall_mem_cons.2 ⟨hdraws draws.position, hcolors⟩

/-- The colors of the first layout have 24 bits. -/
theorem layout_color : ∀ v ∈ layout, v.color ≤ Color.limit := by
  simp only [layout, List.forall_mem_cons]
  refine ⟨?_, ?_, ?_, ?_, by simp⟩ <;> decide

end Workspace

/-- **A change** does the same to like scenes. -/
theorem Change.run_alike {w w' : Workspace} (h : w.Alike C w') (hlimit : ∀ c ≤ Color.limit, C c)
    (hdraws : Drawable C w.draws) {change : Change} (hchange : change.Colored C) :
    (change.run w).1 = (change.run w').1 ∧ (change.run w).2.Alike C (change.run w').2 := by
  cases change with
  | resultVector sketch =>
    simp only [Change.run, h.nextResultName.1]
    exact h.nextResultName.2.addVector hdraws hchange _
  | resultVectors sketches =>
    obtain ⟨hnames, hcolors, halike⟩ := h.nameResults hdraws hchange
    simp only [Change.run, ← hnames]
    exact halike.addVectors hcolors
  | randomVectors count length unit mode =>
    obtain ⟨hnames, hcolors, halike⟩ := h.nameRandoms hdraws length unit mode count
    simp only [Change.run, ← hnames]
    exact halike.addVectors hcolors
  | resultMatrix transform =>
    simp only [Change.run, h.nextResultName.1]
    exact h.nextResultName.2.addMatrix _ _
  | newVector name sketch => exact h.addVector hdraws hchange name
  | newMatrix name transform => exact h.addMatrix name transform
  | putMatrix name transform =>
    simp only [Change.run, h.scene.matrices.contains_eq]
    by_cases hname : w'.scene.matrices.contains name
    · simp only [hname, if_true]
      exact h.finish (h.scene.replaceMatrix _ _) _
    · simp only [hname]
      exact h.finish (h.scene.createMatrix _) _
  | replaceVector key name sketch menu =>
    have hcolor := Sketch.draw_color hchange hdraws name
    have hreplace := h.scene.replaceVector key hcolor
    simp only [Change.run, ← h.draws]
    generalize w.scene.replaceVector key (sketch.draw name w.draws).1 = x,
      w'.scene.replaceVector key (sketch.draw name w.draws).1 = x' at hreplace ⊢
    cases hreplace with
    | ok hs =>
      refine ⟨rfl, ?_, rfl⟩
      cases menu
      · exact hs
      · exact { hs with }
    | error fault => exact ⟨rfl, h.scene, rfl⟩
  | replaceMatrix key name transform options => exact h.finish (h.scene.replaceMatrix _ _) _
  | destroyVector key =>
    rcases h.scene.destroyVector key with ⟨hv, hv'⟩ | ⟨v, v', t, t', hv, hv', hname, hs⟩
    · simpa only [Change.run, hv, hv', true_and] using h
    · simp only [Change.run, hv, hv', hname]
      exact h.finish (.ok hs) _
  | destroyMatrix key =>
    rcases h.scene.destroyMatrix key with ⟨hm, hm'⟩ | ⟨m, m', t, t', hm, hm', hname, hs⟩
    · simpa only [Change.run, hm, hm', true_and] using h
    · simp only [Change.run, hm, hm', hname]
      exact h.finish (.ok hs) _
  | showVector key visible =>
    rcases h.scene.showVector key visible with ⟨hv, hv'⟩ | ⟨t, t', hv, hv', hs⟩
    · simpa only [Change.run, hv, hv', true_and] using h
    · simp only [Change.run, hv, hv']
      exact h.finish (.ok hs) _
  | showMatrix key visible =>
    rcases h.scene.showMatrix key visible with ⟨hm, hm'⟩ | ⟨t, t', hm, hm', hs⟩
    · simpa only [Change.run, hm, hm', true_and] using h
    · simp only [Change.run, hm, hm']
      exact h.finish (.ok hs) _
  | clear => exact ⟨rfl, h.scene.clear, h.draws⟩
  | reset =>
    have hcolors : ∀ v ∈ Workspace.layout, C v.color := fun v hv =>
      hlimit _ (Workspace.layout_color v hv)
    obtain ⟨hresult, hs⟩ := Workspace.createAll_alike h.scene.clear hcolors
    simp only [Change.run]
    generalize Workspace.createAll Workspace.layout w.scene.clear = x,
      Workspace.createAll Workspace.layout w'.scene.clear = x' at hresult hs ⊢
    obtain ⟨result, scene⟩ := x
    obtain ⟨result', scene'⟩ := x'
    obtain rfl : result = result' := hresult
    cases result with
    | ok _ => exact ⟨rfl, hs, h.draws⟩
    | error fault => exact ⟨rfl, hs, h.draws⟩
  | camera c result => exact ⟨rfl, { h.scene with camera := rfl }, h.draws⟩
  | settings s result => exact ⟨rfl, { h.scene with settings := rfl }, h.draws⟩

/-! ### What a change takes from the stream -/

/-- A later place in the same stream of random numbers. -/
structure Later (draws draws' : Draws) : Prop where
  stream : draws'.stream = draws.stream
  position : draws.position ≤ draws'.position

theorem Later.refl (draws : Draws) : Later draws draws := ⟨rfl, Nat.le_refl _⟩

theorem Later.trans {draws draws' draws'' : Draws} (h : Later draws draws')
    (h' : Later draws' draws'') : Later draws draws'' :=
  ⟨h'.stream.trans h.stream, Nat.le_trans h.position h'.position⟩

theorem Drawable.later {draws draws' : Draws} (h : Drawable C draws) (hl : Later draws draws') :
    Drawable C draws' := by
  rw [Drawable, hl.stream]
  exact h

theorem Sketch.draw_later (s : Sketch) (name : String) (draws : Draws) :
    Later draws (s.draw name draws).2 :=
  ⟨s.draw_stream name draws, s.draw_position name draws⟩

namespace Workspace

/-- Nothing was used up but the numbers of generated names, and random numbers. -/
structure Spared (w w' : Workspace) : Prop where
  scene : w'.scene = { w.scene with
    resultCount := w'.scene.resultCount, randomCount := w'.scene.randomCount }
  results : w.scene.resultCount ≤ w'.scene.resultCount
  randoms : w.scene.randomCount ≤ w'.scene.randomCount
  draws : Later w.draws w'.draws

theorem Spared.refl (w : Workspace) : w.Spared w :=
  ⟨rfl, Nat.le_refl _, Nat.le_refl _, .refl _⟩

theorem Spared.trans {w w' w'' : Workspace} (h : w.Spared w') (h' : w'.Spared w'') :
    w.Spared w'' where
  scene := by
    rw [h'.scene, h.scene]
  results := Nat.le_trans h.results h'.results
  randoms := Nat.le_trans h.randoms h'.randoms
  draws := h.draws.trans h'.draws

theorem nameResults_spared (sketches : List Sketch) (w : Workspace) :
    w.Spared (nameResults sketches w).2 := by
  induction sketches generalizing w with
  | nil => exact .refl w
  | cons sketch rest ih =>
    refine Spared.trans ?_ (ih _)
    exact ⟨rfl, Nat.le_succ _, Nat.le_refl _, sketch.draw_later w.scene.nextResultName.1 w.draws⟩

theorem nameRandoms_spared (length : Float) (unit : Bool) (mode : RenderMode) (count : Nat)
    (w : Workspace) : w.Spared (nameRandoms length unit mode count w).2 := by
  induction count generalizing w with
  | zero => exact .refl w
  | succ count ih =>
    refine Spared.trans ?_ (ih _)
    refine ⟨rfl, Nat.le_refl _, Nat.le_succ _, ?_⟩
    have hcolor : Later w.draws w.draws.next.2 := ⟨rfl, Nat.le_succ _⟩
    exact hcolor.trans ⟨randomTip_stream length unit _, randomTip_position length unit _⟩

/-! ### Generated names -/

/-- A text that is looked up as a name. -/
def Literal (name : String) : Prop := ∀ rest, name.toList ≠ '$' :: rest

theorem literal_resultName (n : Nat) : Literal (State.resultName n) := by
  intro rest
  simp [State.resultName, toString]

theorem literal_randomName (n : Nat) : Literal (State.randomName n) := by
  intro rest
  simp [State.randomName, toString]

theorem nameResults_literal (sketches : List Sketch) (w : Workspace) :
    ∀ v ∈ (nameResults sketches w).1, Literal v.name := by
  induction sketches generalizing w with
  | nil => simp [nameResults]
  | cons sketch rest ih =>
    simp only [nameResults, List.forall_mem_cons]
    refine ⟨?_, ih _⟩
    rw [Sketch.draw_name]
    exact literal_resultName _

theorem nameRandoms_literal (length : Float) (unit : Bool) (mode : RenderMode) (count : Nat)
    (w : Workspace) : ∀ v ∈ (nameRandoms length unit mode count w).1, Literal v.name := by
  induction count generalizing w with
  | zero => simp [nameRandoms]
  | succ count ih =>
    simp only [nameRandoms, List.forall_mem_cons]
    exact ⟨literal_randomName _, ih _⟩

/-! ### Several vectors, all of them or none -/

variable {es : List Scene.Vector}

/-- Vectors with new names, all different, can be added. -/
theorem createAll_ok {s : Scene.State} (h : s.vectors.Lists es) {vs : List Scene.Vector}
    (hnodup : (Roster.names vs).Nodup) (hnew : ∀ v ∈ vs, v.name ∉ Roster.names es) :
    ∃ s', createAll vs s = (.ok (), s') := by
  induction vs generalizing s es with
  | nil => exact ⟨s, rfl⟩
  | cons v rest ih =>
    obtain ⟨hv, hrest⟩ := List.nodup_cons.1 hnodup
    obtain ⟨hname, hnames⟩ := List.forall_mem_cons.1 hnew
    obtain ⟨r, hcreate, hlists⟩ := h.create_free hname s.stage
    -- once the first vector is in the roster, the names of the others are still new
    have hnext : ∀ x ∈ rest, x.name ∉ Roster.names (es ++ [(Entity.enter v s.stage).1]) := by
      intro x hx hmem
      rw [Roster.names, List.map_append, List.map_singleton, Entity.name_enter] at hmem
      rcases List.mem_append.1 hmem with hmem | hmem
      · exact hnames x hx hmem
      · have hsame : x.name = v.name := List.mem_singleton.1 hmem
        exact hv (List.mem_map.2 ⟨x, hx, hsame⟩)
    have hstep : s.createVector v =
        .ok { s with vectors := r, stage := (Entity.enter v s.stage).2 } := by
      simp only [State.createVector, hcreate]
      rfl
    rw [createAll, hstep]
    exact ih hlists hrest hnext

/-- The first layout can be set up in every scene. -/
theorem reset_ok {s : Scene.State} (h : s.vectors.Lists es) :
    ∃ s', createAll layout s.clear = (.ok (), s') := by
  have hclear : s.clear.vectors.Lists [] := by
    have hvectors : s.clear.vectors = .empty := congrArg Prod.fst (h.clear_eq s.stage)
    rw [hvectors]
    exact Registry.lists_empty
  refine createAll_ok hclear ?_ fun v _ => by simp [Roster.names]
  show ["left", "up", "forward", "origin"].Nodup
  decide

/-- What passes the test for names that are taken can be added. -/
theorem clash?_eq_none {s : Scene.State} (h : s.vectors.Lists es) {vs : List Scene.Vector}
    (hliteral : ∀ v ∈ vs, Literal v.name) {before : List String}
    (hclash : clash? s before vs = none) :
    (Roster.names vs).Nodup ∧ (∀ v ∈ vs, v.name ∉ Roster.names es) ∧
      ∀ v ∈ vs, v.name ∉ before := by
  induction vs generalizing before with
  | nil => simp [Roster.names]
  | cons v rest ih =>
    obtain ⟨hv, hrest⟩ := List.forall_mem_cons.1 hliteral
    -- a generated name does not start like a shortcut, so it is looked up as a name
    have hcontains : s.vectors.contains v.name = decide (v.name ∈ Roster.names es) := by
      rw [Registry.contains, h.shows.resolve_literal v.name hv, h.shows.names]
      by_cases hname : v.name ∈ Roster.names es <;> simp [hname]
    unfold clash? at hclash
    split at hclash
    · exact absurd hclash (by simp)
    · rename_i hnot
      simp only [hcontains, Bool.or_eq_true, decide_eq_true_eq, List.contains_iff_mem,
        not_or] at hnot
      obtain ⟨hnodup, hnew, hbefore⟩ := ih hrest hclash
      refine ⟨?_, List.forall_mem_cons.2 ⟨hnot.1, hnew⟩, List.forall_mem_cons.2 ⟨hnot.2, ?_⟩⟩
      · refine List.nodup_cons.2 ⟨fun hmem => ?_, hnodup⟩
        obtain ⟨x, hx, hname⟩ := List.mem_map.1 hmem
        have hin : x.name ∈ before ++ [v.name] :=
          List.mem_append_right _ (List.mem_singleton.2 hname)
        exact hbefore x hx hin
      · exact fun x hx hmem => hbefore x hx (List.mem_append_left _ hmem)

/-- Adding vectors fails only before the first is added. -/
theorem addVectors_error {w : Workspace} (h : w.scene.vectors.Lists es)
    {vs : List Scene.Vector} (hliteral : ∀ v ∈ vs, Literal v.name) {fault : Scene.Error}
    (hfault : (w.addVectors vs).1 = .error fault) :
    fault.isLookup ∧ (w.addVectors vs).2 = w := by
  unfold addVectors at hfault ⊢
  cases hclash : clash? w.scene [] vs with
  | some name =>
    rw [hclash] at hfault
    cases hfault
    exact ⟨rfl, rfl⟩
  | none =>
    -- what passed the test can all be added, so there is no fault
    obtain ⟨hnodup, hnew, -⟩ := clash?_eq_none h hliteral hclash
    obtain ⟨s', hs'⟩ := createAll_ok h hnodup hnew
    simp [hclash, hs'] at hfault

end Workspace

namespace Workspace

variable {w : Workspace} {fault : Scene.Error}

theorem finish_error {x : Except Scene.Error Scene.State} {result : Value}
    (hx : ∀ fault, x = .error fault → fault.isLookup)
    (h : (w.finish x result).1 = .error fault) :
    fault.isLookup ∧ (w.finish x result).2 = w := by
  cases x with
  | ok scene => cases h
  | error f =>
    cases h
    exact ⟨hx _ rfl, rfl⟩

theorem addVector_error {name : String} {sketch : Sketch}
    (h : (w.addVector name sketch).1 = .error fault) :
    fault.isLookup ∧ w.Spared (w.addVector name sketch).2 := by
  have hdrawn : w.Spared { w with draws := (sketch.draw name w.draws).2 } :=
    ⟨rfl, Nat.le_refl _, Nat.le_refl _, sketch.draw_later name w.draws⟩
  rw [addVector_eq] at h ⊢
  obtain ⟨hlookup, hsame⟩ := finish_error (fun _ => State.createVector_error) h
  exact ⟨hlookup, hsame.symm ▸ hdrawn⟩

theorem addMatrix_error {name : String} {transform : Transform}
    (h : (w.addMatrix name transform).1 = .error fault) :
    fault.isLookup ∧ (w.addMatrix name transform).2 = w :=
  finish_error (fun _ => State.createMatrix_error) h

theorem spared_nextResultName (w : Workspace) :
    w.Spared { w with scene := w.scene.nextResultName.2 } :=
  ⟨rfl, Nat.le_succ _, Nat.le_refl _, .refl _⟩

end Workspace

/-- **A change that fails** does so because a name is taken or not found, and spares the scene. -/
theorem Change.run_error {w : Workspace} {vs : List Scene.Vector} (hvs : w.scene.vectors.Lists vs)
    {change : Change} {fault : Scene.Error} (h : (change.run w).1 = .error fault) :
    fault.isLookup ∧ w.Spared (change.run w).2 := by
  cases change with
  | resultVector sketch =>
    obtain ⟨hlookup, hspared⟩ := Workspace.addVector_error h
    exact ⟨hlookup, w.spared_nextResultName.trans hspared⟩
  | resultVectors sketches =>
    have hspared := Workspace.nameResults_spared sketches w
    have hlists : (Workspace.nameResults sketches w).2.scene.vectors.Lists vs := by
      rw [hspared.scene]
      exact hvs
    obtain ⟨hlookup, hsame⟩ :=
      Workspace.addVectors_error hlists (Workspace.nameResults_literal sketches w) h
    exact ⟨hlookup, hsame.symm ▸ hspared⟩
  | randomVectors count length unit mode =>
    have hspared := Workspace.nameRandoms_spared length unit mode count w
    have hlists : (Workspace.nameRandoms length unit mode count w).2.scene.vectors.Lists vs := by
      rw [hspared.scene]
      exact hvs
    obtain ⟨hlookup, hsame⟩ :=
      Workspace.addVectors_error hlists (Workspace.nameRandoms_literal length unit mode count w) h
    exact ⟨hlookup, hsame.symm ▸ hspared⟩
  | resultMatrix transform =>
    obtain ⟨hlookup, hsame⟩ := Workspace.addMatrix_error h
    exact ⟨hlookup, hsame.symm ▸ w.spared_nextResultName⟩
  | newVector name sketch => exact Workspace.addVector_error h
  | newMatrix name transform =>
    obtain ⟨hlookup, hsame⟩ := Workspace.addMatrix_error h
    exact ⟨hlookup, hsame.symm ▸ .refl w⟩
  | putMatrix name transform =>
    have hlookups : ∀ fault, (if w.scene.matrices.contains name then
        w.scene.replaceMatrix name (.build name transform {})
        else w.scene.createMatrix (.build name transform {})) = .error fault →
        fault.isLookup := by
      intro fault hfault
      split at hfault
      · exact State.replaceMatrix_error hfault
      · exact State.createMatrix_error hfault
    obtain ⟨hlookup, hsame⟩ := Workspace.finish_error hlookups h
    exact ⟨hlookup, hsame.symm ▸ .refl w⟩
  | replaceVector key name sketch menu =>
    have hdrawn : w.Spared { w with draws := (sketch.draw name w.draws).2 } :=
      ⟨rfl, Nat.le_refl _, Nat.le_refl _, sketch.draw_later name w.draws⟩
    simp only [Change.run] at h ⊢
    cases hr : w.scene.replaceVector key (sketch.draw name w.draws).1 with
    | ok scene => simp [hr] at h
    | error f =>
      simp only [hr, Except.error.injEq] at h ⊢
      exact ⟨h ▸ State.replaceVector_error hr, hdrawn⟩
  | replaceMatrix key name transform options =>
    obtain ⟨hlookup, hsame⟩ := Workspace.finish_error (fun _ => State.replaceMatrix_error) h
    exact ⟨hlookup, hsame.symm ▸ .refl w⟩
  | destroyVector key =>
    simp only [Change.run] at h ⊢
    cases hd : w.scene.destroyVector key with
    | some p => simp [hd, Workspace.finish] at h
    | none =>
      simp only [hd, Except.error.injEq] at h ⊢
      exact ⟨h ▸ rfl, .refl w⟩
  | destroyMatrix key =>
    simp only [Change.run] at h ⊢
    cases hd : w.scene.destroyMatrix key with
    | some p => simp [hd, Workspace.finish] at h
    | none =>
      simp only [hd, Except.error.injEq] at h ⊢
      exact ⟨h ▸ rfl, .refl w⟩
  | showVector key visible =>
    simp only [Change.run] at h ⊢
    cases hd : w.scene.showVector key visible with
    | some p => simp [hd, Workspace.finish] at h
    | none =>
      simp only [hd, Except.error.injEq] at h ⊢
      exact ⟨h ▸ rfl, .refl w⟩
  | showMatrix key visible =>
    simp only [Change.run] at h ⊢
    cases hd : w.scene.showMatrix key visible with
    | some p => simp [hd, Workspace.finish] at h
    | none =>
      simp only [hd, Except.error.injEq] at h ⊢
      exact ⟨h ▸ rfl, .refl w⟩
  | clear => simp [Change.run] at h
  | reset =>
    obtain ⟨s', hs'⟩ := Workspace.reset_ok hvs
    simp [Change.run, hs'] at h
  | camera c result => simp [Change.run] at h
  | settings s result => simp [Change.run] at h

/-! ### Random numbers -/

namespace Workspace

theorem finish_later (w : Workspace) (x : Except Scene.Error Scene.State) (result : Value) :
    Later w.draws (w.finish x result).2.draws := by
  cases x with
  | ok s => exact .refl w.draws
  | error fault => exact .refl w.draws

theorem addVector_later (w : Workspace) (name : String) (sketch : Sketch) :
    Later w.draws (w.addVector name sketch).2.draws := by
  rw [addVector_eq]
  exact (sketch.draw_later name w.draws).trans
    (finish_later { w with draws := (sketch.draw name w.draws).2 } _ _)

theorem addVectors_draws (w : Workspace) (vs : List Scene.Vector) :
    (w.addVectors vs).2.draws = w.draws := by
  unfold addVectors
  split
  · rfl
  · split <;> rfl

end Workspace

/-- A change uses up numbers of the stream from its place on. -/
theorem Change.run_later (change : Change) (w : Workspace) :
    Later w.draws (change.run w).2.draws := by
  cases change with
  | resultVector sketch =>
    exact Workspace.addVector_later ⟨w.scene.nextResultName.2, w.draws⟩ _ sketch
  | resultVectors sketches =>
    simp only [Change.run, Workspace.addVectors_draws]
    exact (Workspace.nameResults_spared sketches w).draws
  | randomVectors count length unit mode =>
    simp only [Change.run, Workspace.addVectors_draws]
    exact (Workspace.nameRandoms_spared length unit mode count w).draws
  | resultMatrix transform =>
    simp only [Change.run, Workspace.addMatrix]
    exact Workspace.finish_later ⟨w.scene.nextResultName.2, w.draws⟩ _ _
  | newVector name sketch => exact w.addVector_later name sketch
  | newMatrix name transform => exact w.finish_later _ _
  | putMatrix name transform =>
    simp only [Change.run]
    exact w.finish_later _ _
  | replaceVector key name sketch menu =>
    simp only [Change.run]
    split <;> exact sketch.draw_later name w.draws
  | replaceMatrix key name transform options => exact w.finish_later _ _
  | destroyVector key =>
    simp only [Change.run]
    split
    · exact w.finish_later _ _
    · exact .refl _
  | destroyMatrix key =>
    simp only [Change.run]
    split
    · exact w.finish_later _ _
    · exact .refl _
  | showVector key visible =>
    simp only [Change.run]
    split
    · exact w.finish_later _ _
    · exact .refl _
  | showMatrix key visible =>
    simp only [Change.run]
    split
    · exact w.finish_later _ _
    · exact .refl _
  | clear => exact .refl _
  | reset =>
    simp only [Change.run]
    split <;> exact .refl _
  | camera c result => exact .refl _
  | settings s result => exact .refl _

end VectorScene.Command
