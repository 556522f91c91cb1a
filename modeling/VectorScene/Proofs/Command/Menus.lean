import VectorScene.Proofs.Command.Kinds
import VectorScene.Proofs.Command.Repetition
import VectorScene.Proofs.Scene.Places

/-!
# Menus that have to be made anew

A menu lists the names of the vectors and of the matrices. A scene remembers that a new menu was
asked for until it is asked whether one was, which is a poll. No change of the names goes unnoticed:
if they are other ones at any moment of some calls, then the poll behind the calls says so, however
the calls end and whatever calls they make on their way.

Most changes ask for a menu whenever they succeed. The one that does not, a vector that is put in
the place of another, is made by a command that keeps the name of the vector; and vectors that are
added together are all added, or none is.

## Main definitions

* `State.SameNames`, `State.Announces`: the names of the entities, and that no change of them is
  lost
* `Change.scenes`: the scenes that a change passes through
* `Engine.Passes`, `Engine.PassesThrough`: those of a call, and of calls one after another

## Main results

* `Change.announces`, `Change.announces_scenes`: one change
* `Builtin.all_retain`: the commands that put a vector in the place of another
* `Engine.call_announces`, `Engine.Passes.announced`: one call
* `poll_after_calls`: two polls with calls between them
-/

namespace VectorScene.Scene

/-! ### Names and polls -/

namespace Registry.Lists

variable {α : Type} [Entity α] {r : Registry α} {es : List α}

/-- An entity whose name is in the registry already, put in the place of another, leaves the names
as they are: it is granted no place but that of its name. -/
theorem names_replace (h : r.Lists es) {key : String} {e : α} {s : Stage}
    (hname : Entity.name e ∈ r.names)
    (hgranted : (r.answer (.replace key e) s).1.fault? = none) :
    (r.answer (.replace key e) s).2.1.names = r.names := by
  obtain ⟨hanswer, hlists, -⟩ := h.answer (.replace key e) s
  rw [hanswer] at hgranted
  obtain ⟨j, old, t, hold, hother, hset⟩ := Roster.replace_granted hgranted
  obtain ⟨front, back, rfl, rfl⟩ := Roster.exists_split (Roster.locate?_eq_some.1 hold).2
  rw [Roster.eraseIdx_split] at hother
  have hsame : Entity.name e = Entity.name old := by
    rw [h.names_eq] at hname
    simp only [Roster.names, List.map_append, List.map_cons, List.mem_append, List.mem_cons]
      at hname hother
    rcases hname with hfront | hsame | hback
    · exact absurd (.inl hfront) hother
    · exact hsame
    · exact absurd (.inr hback) hother
  rw [hlists.names_eq, hset, h.names_eq, Roster.set_split]
  simp [Roster.names, hsame]

end Registry.Lists

namespace State

/-- Two scenes have the same names of vectors, in the same order, and of matrices. -/
structure SameNames (s s' : State) : Prop where
  vectors : s'.vectors.names = s.vectors.names
  matrices : s'.matrices.names = s.matrices.names

/-- From one scene to a later one no change of the names is lost: a menu that was asked for is still
asked for, and one is asked for if the names are not the same. -/
structure Announces (s s' : State) : Prop where
  kept : s.menuStale = true → s'.menuStale = true
  told : ¬s.SameNames s' → s'.menuStale = true

variable {s s' s'' : State}

theorem SameNames.refl (s : State) : s.SameNames s := ⟨rfl, rfl⟩

theorem SameNames.trans (h : s.SameNames s') (h' : s'.SameNames s'') : s.SameNames s'' :=
  ⟨h'.vectors.trans h.vectors, h'.matrices.trans h.matrices⟩

namespace Announces

theorem of_stale (h : s'.menuStale = true) : s.Announces s' := ⟨fun _ => h, fun _ => h⟩

theorem of_same (h : s.SameNames s') (hmenu : s'.menuStale = s.menuStale) : s.Announces s' :=
  ⟨fun hs => hmenu.trans hs, fun hnot => absurd h hnot⟩

theorem refl (s : State) : s.Announces s := of_same (.refl s) rfl

theorem trans (h : s.Announces s') (h' : s'.Announces s'') : s.Announces s'' := by
  refine ⟨fun hs => h'.kept (h.kept hs), fun hnot => ?_⟩
  by_cases hsame : s.SameNames s'
  · exact h'.told fun hsame' => hnot (hsame.trans hsame')
  · exact h'.kept (h.told hsame)

end Announces

/-- **A poll** right behind another one says that no menu was asked for. -/
theorem takeMenu_takeMenu (s : State) : s.takeMenu.2.takeMenu.1 = false := rfl

end State

end VectorScene.Scene

namespace VectorScene.Command

open VectorScene.Geometry Scene

/-! ### Changes -/

namespace Workspace

variable {w : Workspace} {es : List Scene.Vector}

theorem finish_announces (w : Workspace) (x : Except Scene.Error Scene.State) (result : Value) :
    w.scene.Announces (w.finish x result).2.scene := by
  cases x with
  | ok scene => exact .of_stale rfl
  | error fault => exact .refl w.scene

theorem Spared.announces {w' : Workspace} (h : w.Spared w') : w.scene.Announces w'.scene := by
  rw [h.scene]
  exact .of_same ⟨rfl, rfl⟩ rfl

/-- Vectors that are added do not take back that a menu was asked for. -/
theorem createAll_menuStale (vs : List Scene.Vector) (s : Scene.State) :
    (createAll vs s).2.menuStale = s.menuStale := by
  induction vs generalizing s with
  | nil => rfl
  | cons v rest ih =>
    rw [createAll]
    cases hcreate : s.createVector v with
    | error fault => rfl
    | ok s' =>
      rw [State.createVector_eq] at hcreate
      split at hcreate
      · cases hcreate
      · cases hcreate
        exact ih _

/-- The scenes behind each of the vectors that are added one after another. -/
def creations : List Scene.Vector → Scene.State → List Scene.State
  | [], _ => []
  | v :: rest, s =>
    match s.createVector v with
    | .ok s' => s' :: creations rest s'
    | .error _ => []

/-- The last of these scenes is the one that is left. -/
theorem creations_getLast (vs : List Scene.Vector) (s : Scene.State) :
    (creations vs s).getLast?.getD s = (createAll vs s).2 := by
  induction vs generalizing s with
  | nil => rfl
  | cons v rest ih =>
    rw [creations, createAll]
    cases s.createVector v with
    | error fault => rfl
    | ok s' =>
      simp only
      rw [← ih s', List.getLast?_cons, Option.getD_some]

/-- The scenes behind each of the vectors that are added together. -/
def additions (w : Workspace) (vs : List Scene.Vector) : List Scene.State :=
  match clash? w.scene [] vs with
  | some _ => []
  | none => creations vs w.scene

/-- Vectors that are added together, all of them or none. -/
theorem addVectors_same_or_told (h : w.scene.vectors.Lists es) {vs : List Scene.Vector}
    (hliteral : ∀ v ∈ vs, Literal v.name) :
    ((w.addVectors vs).2.scene = w.scene ∧ w.additions vs = []) ∨
      (w.addVectors vs).2.scene.menuStale = true := by
  unfold addVectors additions
  cases hclash : clash? w.scene [] vs with
  | some name => exact .inl ⟨rfl, rfl⟩
  | none =>
    -- what passed the test for names that are taken can all be added
    obtain ⟨hnodup, hnew, -⟩ := clash?_eq_none h hliteral hclash
    obtain ⟨s', hs'⟩ := createAll_ok h hnodup hnew
    simp only [hs']
    cases vs with
    | nil =>
      cases hs'
      exact .inl ⟨rfl, rfl⟩
    | cons v rest => exact .inr rfl

/-- Vectors that are added once they have got their names. -/
theorem Spared.addVectors_announces {w' : Workspace} (hspared : w.Spared w')
    (h : w.scene.vectors.Lists es) {vs : List Scene.Vector} (hliteral : ∀ v ∈ vs, Literal v.name) :
    w.scene.Announces (w'.addVectors vs).2.scene := by
  have hlists : w'.scene.vectors.Lists es := by
    rw [hspared.scene]
    exact h
  rcases addVectors_same_or_told hlists hliteral with ⟨hsame, -⟩ | hstale
  · rw [hsame]
    exact hspared.announces
  · exact .of_stale hstale

theorem Spared.additions_told {w' : Workspace} (hspared : w.Spared w')
    (h : w.scene.vectors.Lists es) {vs : List Scene.Vector} (hliteral : ∀ v ∈ vs, Literal v.name)
    {s : Scene.State} (hs : s ∈ w'.additions vs) :
    (w'.addVectors vs).2.scene.menuStale = true := by
  have hlists : w'.scene.vectors.Lists es := by
    rw [hspared.scene]
    exact h
  rcases addVectors_same_or_told hlists hliteral with ⟨-, hnone⟩ | hstale
  · rw [hnone] at hs
    cases hs
  · exact hstale

end Workspace

namespace Change

/-- A vector that is put in the place of another, without a new menu, has a name that is there
already. -/
def Retains (s : Scene.State) : Change → Prop
  | replaceVector _ name _ false => name ∈ s.vectors.names
  | _ => True

variable {w : Workspace} {es : List Scene.Vector}

/-- **A change** loses no change of the names, from the scene before it to the one behind it. -/
theorem announces (h : w.scene.vectors.Lists es) {change : Change} (hown : change.Retains w.scene) :
    w.scene.Announces (change.run w).2.scene := by
  have hcount : w.scene.Announces w.scene.nextResultName.2 := .of_same ⟨rfl, rfl⟩ rfl
  cases change with
  | resultVector sketch =>
    refine hcount.trans ?_
    exact Workspace.finish_announces ⟨w.scene.nextResultName.2, _⟩ _ _
  | resultVectors sketches =>
    exact (Workspace.nameResults_spared sketches w).addVectors_announces h
      (Workspace.nameResults_literal sketches w)
  | randomVectors count length unit mode =>
    exact (Workspace.nameRandoms_spared length unit mode count w).addVectors_announces h
      (Workspace.nameRandoms_literal length unit mode count w)
  | resultMatrix transform =>
    refine hcount.trans ?_
    exact Workspace.finish_announces ⟨w.scene.nextResultName.2, _⟩ _ _
  | newVector name sketch =>
    show w.scene.Announces (w.addVector name sketch).2.scene
    rw [Workspace.addVector_eq]
    exact Workspace.finish_announces ⟨w.scene, (sketch.draw name w.draws).2⟩ _ _
  | newMatrix name transform => exact w.finish_announces _ _
  | putMatrix name transform => exact w.finish_announces _ _
  | replaceVector key name sketch menu =>
    simp only [run]
    cases hreplace : w.scene.replaceVector key (sketch.draw name w.draws).1 with
    | error fault => exact .refl w.scene
    | ok s =>
      cases menu with
      | true => exact .of_stale rfl
      | false =>
        obtain ⟨hgranted, rfl⟩ := State.replaceVector_ok hreplace
        have hname : Entity.name (sketch.draw name w.draws).1 ∈ w.scene.vectors.names :=
          (sketch.draw_name name w.draws).symm ▸ hown
        exact .of_same ⟨h.names_replace hname hgranted, rfl⟩ rfl
  | replaceMatrix key name transform options => exact w.finish_announces _ _
  | destroyVector key | destroyMatrix key | showVector key visible | showMatrix key visible =>
    simp only [run]
    split
    · exact w.finish_announces _ _
    · exact .refl w.scene
  | clear => exact .of_stale rfl
  | reset =>
    have hstale := Workspace.createAll_menuStale Workspace.layout w.scene.clear
    simp only [run]
    split
    · rename_i hcreate
      rw [hcreate] at hstale
      exact .of_stale hstale
    · rename_i hcreate
      rw [hcreate] at hstale
      exact .of_stale hstale
  | camera c result => exact .of_same ⟨rfl, rfl⟩ rfl
  | settings s result => exact .of_same ⟨rfl, rfl⟩ rfl

/-- The scenes between the one before a change and the one behind it: where several vectors are
added, those behind each of them, and where all entities are taken away first, the one without
any. -/
def between (change : Change) (w : Workspace) : List Scene.State :=
  match change with
  | resultVectors sketches =>
    (Workspace.nameResults sketches w).2.additions (Workspace.nameResults sketches w).1
  | randomVectors count length unit mode =>
    (Workspace.nameRandoms length unit mode count w).2.additions
      (Workspace.nameRandoms length unit mode count w).1
  | reset => w.scene.clear :: Workspace.creations Workspace.layout w.scene.clear
  | _ => []

/-- The scenes that a change passes through. -/
def scenes (change : Change) (w : Workspace) : List Scene.State :=
  w.scene :: change.between w ++ [(change.run w).2.scene]

/-- **Every scene that a change passes through** is announced by the one behind the change. -/
theorem announces_scenes (h : w.scene.vectors.Lists es) {change : Change}
    (hown : change.Retains w.scene) {s : Scene.State} (hs : s ∈ change.scenes w)
    (hnames : ¬w.scene.SameNames s) : (change.run w).2.scene.menuStale = true := by
  -- where there are scenes between, a menu is asked for in the end
  have hbetween : s ∈ change.between w → (change.run w).2.scene.menuStale = true := by
    intro hmem
    cases change with
    | resultVectors sketches =>
      exact (Workspace.nameResults_spared sketches w).additions_told h
        (Workspace.nameResults_literal sketches w) hmem
    | randomVectors count length unit mode =>
      exact (Workspace.nameRandoms_spared length unit mode count w).additions_told h
        (Workspace.nameRandoms_literal length unit mode count w) hmem
    | reset =>
      have hstale := Workspace.createAll_menuStale Workspace.layout w.scene.clear
      obtain ⟨s', hs'⟩ := Workspace.reset_ok h
      rw [hs'] at hstale
      simp only [run, hs']
      exact hstale
    | _ => cases hmem
  simp only [scenes, List.cons_append, List.mem_cons, List.mem_append, List.not_mem_nil,
    or_false] at hs
  rcases hs with rfl | hmem | rfl
  · exact absurd (.refl _) hnames
  · exact hbetween hmem
  · exact (announces h hown).told hnames

end Change

/-! ### Plans -/

theorem Change.Common.retains {change : Change} (h : change.Common) (s : Scene.State) :
    change.Retains s := by
  cases change with
  | replaceVector key name sketch menu =>
    cases menu with
    | true => trivial
    | false => exact h.elim
  | _ => trivial

namespace Builtin

/-- The vector of length one has the name of the vector that was found. -/
theorem retain_normalizeVector {view : View} {es : List Scene.Vector}
    (h : view.scene.vectors.Lists es) (args : Args) :
    Gives (Plan.Makes fun k => k.Retains view.scene) (normalizeVector.plan view args) := by
  intro plan hplan
  obtain ⟨v, hv, hplan⟩ := ok_of_bind hplan
  obtain ⟨key, -, hv⟩ := ok_of_bind hv
  cases hplan
  refine List.forall_mem_singleton.2 ?_
  show v.name ∈ view.scene.vectors.names
  rw [h.names_eq]
  exact List.mem_map_of_mem (f := Entity.name) (h.mem_of_get? (require_ok hv))

/-- **Every built-in command** that puts a vector in the place of another without a new menu keeps
the name of the vector. -/
theorem all_retain {b : Builtin} (hb : b ∈ Builtin.all) {view : View} {es : List Scene.Vector}
    (h : view.scene.vectors.Lists es) (args : Args) :
    Gives (Plan.Makes fun k => k.Retains view.scene) (b.plan view args) := by
  rcases all_common hb with rfl | rfl | rfl | hcommon
  · exact retain_normalizeVector h args
  · refine gives_bind fun _ => ?_
    split
    · exact makes_throw
    · exact gives_bind fun _ => makes_change trivial
  · exact makes_change trivial
  · exact fun plan hplan k hk => (hcommon view args plan hplan k hk).retains view.scene

end Builtin

/-! ### Calls -/

theorem Call.Settles.retains {c : Call} {e : Engine} {b : Builtin} {plan : Plan}
    (h : c.Settles e b plan) {es : List Scene.Vector} (hes : e.scene.vectors.Lists es) :
    plan.Makes fun k => k.Retains e.scene := by
  have hview : e.builtinView.scene.vectors.Lists es := hes
  exact Builtin.all_retain h.mem hview c.args.present plan h.plan

/-- From a sane workspace to a sane one in which no change of the names is lost. -/
def Workspace.Announces (w w' : Workspace) : Prop :=
  w.scene.Alike (fun _ => True) w.scene →
    w'.scene.Alike (fun _ => True) w'.scene ∧ w.scene.Announces w'.scene

namespace Workspace.Announces

theorem refl (w : Workspace) : w.Announces w := fun hw => ⟨hw, .refl _⟩

theorem trans {w w' w'' : Workspace} (h : w.Announces w') (h' : w'.Announces w'') :
    w.Announces w'' := by
  intro hw
  obtain ⟨hw', hfirst⟩ := h hw
  obtain ⟨hw'', hsecond⟩ := h' hw'
  exact ⟨hw'', hfirst.trans hsecond⟩

end Workspace.Announces

namespace Engine

/-- **A call** loses no change of the names, whatever comes of it. -/
theorem call_announces (surface : Bool) (c : Call) (e : Engine) :
    e.workspace.Announces (e.call Table.builtin surface c).2.workspace := by
  refine call_relates Workspace.Announces.refl Workspace.Announces.trans ?_ surface c e
  intro c e b plan hsettles k hk hsane
  obtain ⟨es, -, hes, -⟩ := hsane.vectors.rosters
  exact ⟨Change.sane hsane k, Change.announces hes (hsettles.retains hes k hk)⟩

/-- Nor do the calls of a list. -/
theorem runList_announces (surface : Bool) (calls : List Call) (e : Engine) :
    e.workspace.Announces (e.runList Table.builtin surface calls).2.workspace :=
  runList_relates Workspace.Announces.refl Workspace.Announces.trans
    (fun k _ e => call_announces surface k e) e

/-- Nor does a run. -/
theorem callAll_announces (calls : List (Bool × Call)) (e : Engine) :
    e.workspace.Announces (e.callAll calls).workspace :=
  callAll_relates Workspace.Announces.refl Workspace.Announces.trans call_announces calls e

/-- The scenes that a call passes through: the one before it and the one behind it, those of the
change that its plan makes, those of the call that a composite makes, and those of each call of a
list that is reached. -/
inductive Passes : Engine → Bool → Call → Scene.State → Prop where
  | before {e : Engine} {surface : Bool} {c : Call} : Passes e surface c e.scene
  | behind {e : Engine} {surface : Bool} {c : Call} :
    Passes e surface c (e.call Table.builtin surface c).2.scene
  | change {e : Engine} {surface : Bool} {c : Call} {b : Builtin} {k : Change} {s : Scene.State} :
    c.Settles e b (.change k) → s ∈ k.scenes e.workspace → Passes e surface c s
  | reset {e : Engine} {surface : Bool} {c : Call} {b : Builtin} {forgets : Bool}
    {s : Scene.State} : c.Settles e b (.reset forgets) → s ∈ Change.reset.scenes e.workspace →
    Passes e surface c s
  | delegate {e : Engine} {surface : Bool} {c k : Call} {b : Builtin} {s : Scene.State} :
    c.Settles e b (.delegate k) → Passes e false k s → Passes e surface c s
  | item {e e' : Engine} {surface : Bool} {c k : Call} {b : Builtin} {done rest : List Call}
    {vs : List Value} {s : Scene.State} : c.Settles e b (.replay (done ++ k :: rest)) →
    e.runList Table.builtin true done = (.ok vs, e') → Passes e' true k s → Passes e surface c s

/-- The scenes that calls one after another pass through. -/
def PassesThrough (e : Engine) (calls : List (Bool × Call)) (s : Scene.State) : Prop :=
  ∃ before c rest, calls = before ++ c :: rest ∧ (e.callAll before).Passes c.1 c.2 s

theorem scene_of_workspace {e : Engine} {w : Workspace} (h : e.workspace = w) :
    e.scene = w.scene := congrArg Workspace.scene h

/-- Whatever was announced behind the first part of a list is announced behind the list. -/
theorem runList_split {e e' : Engine} {done : List Call} {k : Call} {vs : List Value}
    (hdone : e.runList Table.builtin true done = (.ok vs, e')) (rest : List Call) :
    (e'.call Table.builtin true k).2.workspace.Announces
      (e.runList Table.builtin true (done ++ k :: rest)).2.workspace := by
  rw [runList_append_of_ok hdone, runList_cons]
  cases (e'.call Table.builtin true k).1 with
  | error fault => exact .refl _
  | ok v => exact runList_announces true rest _

/-- **Every scene that a call passes through** is announced by the one behind the call. -/
theorem Passes.announced {e : Engine} {surface : Bool} {c : Call} {s : Scene.State}
    (h : e.Passes surface c s) (he : e.Sane) (hnames : ¬e.scene.SameNames s) :
    (e.call Table.builtin surface c).2.scene.menuStale = true := by
  induction h with
  | before => exact absurd (.refl _) hnames
  | @behind e surface c => exact (call_announces surface c e he).2.told hnames
  | @change e surface c b k s hsettles hs =>
    obtain ⟨es, -, hes, -⟩ := State.Alike.vectors he |>.rosters
    rw [scene_of_workspace ((hsettles.workspace surface).trans (Plan.enact_change k e))]
    exact Change.announces_scenes hes (hsettles.retains hes k List.mem_cons_self) hs hnames
  | @reset e surface c b forgets s hsettles hs =>
    obtain ⟨es, -, hes, -⟩ := State.Alike.vectors he |>.rosters
    rw [scene_of_workspace ((hsettles.workspace surface).trans (Plan.enact_reset forgets e))]
    exact Change.announces_scenes hes trivial hs hnames
  | @delegate e surface c k b s hsettles hinner ih =>
    rw [scene_of_workspace (hsettles.workspace surface)]
    exact ih he hnames
  | @item e e' surface c k b done rest vs s hsettles hdone hinner ih =>
    obtain ⟨he', hfirst⟩ := runList_announces true done e he
    rw [hdone] at he' hfirst
    have hlist : (e.call Table.builtin surface c).2.workspace =
        (e.runList Table.builtin true (done ++ k :: rest)).2.workspace := by
      rw [hsettles.workspace surface, Plan.enact_replay]
    rw [scene_of_workspace hlist]
    -- the names changed before the call of the list, or in it
    obtain ⟨hcalled, hsecond⟩ := call_announces true k e' he'
    have hrest := (runList_split hdone rest hcalled).2
    by_cases hsame : e.scene.SameNames e'.scene
    · exact hrest.kept (ih he' fun hs => hnames (hsame.trans hs))
    · exact hrest.kept (hsecond.kept (hfirst.told hsame))

/-- A list passes through the scene behind its first call. -/
theorem Passes.first {c k : Call} {rest : List Call} (hc : c.name = "runJsonCommandList")
    (hfit : c.args.Fit Builtin.runJsonCommandList.definition.parameters)
    (hitems : c.items = k :: rest) (surface : Bool) (e : Engine) :
    e.Passes surface c (e.call Table.builtin true k).2.scene := by
  have hmem : k ∈ c.items := hitems ▸ List.mem_cons_self
  obtain ⟨text, calls, htext, hcalls, -⟩ := Call.of_mem_items hmem
  have hstring : c.args.present.string "commandList" = .ok text := by
    refine Args.string_of_get? ?_
    rw [Args.get?_present]
    exact htext
  have hplan : Builtin.runJsonCommandList.plan e.builtinView c.args.present =
      .ok (.replay calls) := by
    simp only [Builtin.runJsonCommandList, hstring, bind, Except.bind, hcalls]
    rfl
  have hreplay := Builtin.runJsonCommandList_calls hc _ _ hplan
  rw [hreplay, hitems] at hplan
  have hsettles : c.Settles e Builtin.runJsonCommandList (.replay ([] ++ k :: rest)) :=
    ⟨Builtin.runJsonCommandList_mem, hc.symm, hfit, hplan⟩
  exact .item hsettles rfl .behind

end Engine

/-- **No menu is lost** between two polls, from every engine that can be reached. Whatever calls are
made between them, the second poll asks for a menu if the names at the first one are not those of
every scene that the calls pass through; and a poll right behind another one asks for none. -/
theorem poll_after_calls {e : Engine} (he : e.Reachable) (calls : List (Bool × Call)) :
    let polled : Engine := { e with scene := e.scene.takeMenu.2 }
    (∀ s, polled.PassesThrough calls s → ¬e.scene.SameNames s →
      (polled.callAll calls).scene.takeMenu.1 = true) ∧
    polled.scene.takeMenu.1 = false := by
  intro polled
  refine ⟨?_, e.scene.takeMenu_takeMenu⟩
  rintro s ⟨before, c, rest, rfl, hpasses⟩ hnames
  have hsane : polled.Sane := { he.sane with }
  obtain ⟨hbefore, hfirst⟩ := Engine.callAll_announces before polled hsane
  obtain ⟨hcalled, hsecond⟩ := Engine.call_announces c.1 c.2 (polled.callAll before) hbefore
  obtain ⟨-, hrest⟩ := Engine.callAll_announces rest _ hcalled
  rw [Engine.callAll_append]
  refine hrest.kept ?_
  -- the names changed before the call that passes through the scene, or in it
  by_cases hsame : polled.scene.SameNames (polled.callAll before).scene
  · refine hpasses.announced hbefore fun hs => hnames ?_
    have hall := hsame.trans hs
    exact ⟨hall.vectors, hall.matrices⟩
  · exact hsecond.kept (hfirst.told hsame)

/-- A list that makes a matrix, takes it away again, and stops at a call without its argument. -/
def passingList : Call :=
  listCall (Call.listJson
    [⟨"createIdentityMatrix", .ofList [("name", .string "m")]⟩,
      ⟨"destroyMatrix", .ofList [("matrix", .string "m")]⟩, ⟨"transposeMatrix", .empty⟩])

/-- The names are the same in the end, but they were not all the time. -/
theorem poll_after_passing :
    let e := Engine.fresh ⟨fun _ => 0.5, 0⟩ {}
    let polled : Engine := { e with scene := e.scene.takeMenu.2 }
    let e' := polled.callAll [(true, passingList)]
    e.Reachable ∧ e.scene.SameNames e'.scene ∧
      (∃ s, polled.PassesThrough [(true, passingList)] s ∧ ¬e.scene.SameNames s) ∧
      e'.scene.takeMenu.1 = true ∧ polled.scene.takeMenu.1 = false := by
  intro e polled e'
  have he : e.Reachable := .start ⟨fun _ => 0.5, 0⟩ {}
  have hcomputed : (e'.scene.vectors.names = [] ∧ e'.scene.matrices.names = []) ∧
      passingList.items.head?.map (fun k =>
        (polled.call Table.builtin true k).2.scene.matrices.names) = some ["m"] := by
    decide +kernel
  obtain ⟨⟨hvectors, hmatrices⟩, hpassed⟩ := hcomputed
  obtain ⟨k, hk, hnames⟩ := Option.map_eq_some_iff.1 hpassed
  obtain ⟨rest, hitems⟩ := List.head?_eq_some_iff.1 hk
  have hthrough : polled.PassesThrough [(true, passingList)]
      (polled.call Table.builtin true k).2.scene :=
    ⟨[], _, [], rfl,
      Engine.Passes.first rfl (Args.validate_fit (listCall_validate _)) hitems true polled⟩
  have hnames : ¬e.scene.SameNames (polled.call Table.builtin true k).2.scene := by
    intro hsame
    rw [hsame.matrices] at hnames
    cases hnames
  obtain ⟨htold, hquiet⟩ := poll_after_calls he [(true, passingList)]
  exact ⟨he, ⟨hvectors, hmatrices⟩, ⟨_, hthrough, hnames⟩, htold _ hthrough hnames, hquiet⟩

end VectorScene.Command
