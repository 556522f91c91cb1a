import VectorScene.Proofs.Command.Replay

/-!
# Command lists in the history

A call that runs a command list is recorded like any other: behind the calls of its list. Replaying
such a history runs the list twice, and other than an edit a list does not come to the same scene
the second time: what it made under generated names, it makes again under further ones. The calls of
the list are all there is to replay. Without the entries of the lists themselves, the history is a
script, whether the lists came through or stopped at a call that failed, and however deep lists
stand inside lists.

## Main definitions

* `Call.items`, `Call.Runs`: the calls of the list that a call runs, and those of lists inside it
* `Engine.unlisted`: an engine without the entries of lists
* `Engine.Follows`: what was recorded, but for lists, leads from one engine to the other

## Main results

* `dispatch_deeper`: a result does not depend on how deep calls may nest
* `dispatch_follows`: one call
* `executeAll_follows`: any number of calls
* `list_history_replays`: the history of a list that came through
* `list_history_doubles`: with the entry of the list
-/

namespace VectorScene.Command

open Scene

variable {C : Color → Prop}

/-! ### How deep calls may nest -/

/-- Calls one after another come to the same end if each of them does. -/
theorem Handler.collect_deeper
    {runCall runCall' : Bool → Call → Engine → Except Error Value × Engine} {surface : Bool}
    (hsame : ∀ {c e v e'}, runCall surface c e = (.ok v, e') → runCall' surface c e = (.ok v, e'))
    (herror : ∀ {c e fault}, (runCall surface c e).1 = .error fault → fault.lookup? = none)
    {definitions : List Definition} (calls : List Call) {next : List Value → Handler}
    (hnext : ∀ vs e, (next vs).run runCall' definitions e = (next vs).run runCall definitions e)
    (e : Engine) (h : Settled ((collect surface calls next).run runCall definitions e).1) :
    (collect surface calls next).run runCall' definitions e =
      (collect surface calls next).run runCall definitions e := by
  induction calls generalizing next e with
  | nil => exact hnext [] e
  | cons c rest ih =>
    simp only [collect, run] at h ⊢
    cases hrun : runCall surface c e with
    | mk x middle =>
      cases x with
      | error fault =>
        -- the error would be that of the whole list, and is not settled
        have hnone := herror (congrArg Prod.fst hrun)
        simp only [hrun, run] at h
        have hsome := h fault rfl
        simp [hnone] at hsome
      | ok v =>
        simp only [hrun] at h
        rw [hsame hrun]
        exact ih (fun vs e => hnext (v :: vs) e) middle h

theorem Plan.perform_deeper {depth : Nat}
    (hsame : ∀ {surface c e v e'}, dispatch Table.builtin depth surface c e = (.ok v, e') →
      dispatch Table.builtin (depth + 1) surface c e = (.ok v, e'))
    (plan : Plan) (e : Engine) (h : Settled (plan.perform depth e).1) :
    plan.perform (depth + 1) e = plan.perform depth e := by
  cases plan with
  | answer result => rfl
  | change c => rfl
  | forget result => rfl
  | reset forgets => simp only [perform_reset, perform_change]
  | delegate c =>
    simp only [perform_delegate] at h ⊢
    cases hrun : dispatch Table.builtin depth false c e with
    | mk x e' =>
      cases x with
      | ok v => exact hsame hrun
      | error fault =>
        have hnone := dispatch_error (congrArg Prod.fst hrun)
        have hsome := h fault (congrArg Prod.fst hrun)
        simp [hnone] at hsome
  | replay calls => exact Handler.collect_deeper hsame dispatch_error calls (fun _ _ => rfl) e h

/-- **A result** is the same however much deeper calls may nest. -/
theorem dispatch_deeper {depth : Nat} {surface : Bool} {c : Call} {e e' : Engine} {v : Value}
    (h : dispatch Table.builtin depth surface c e = (.ok v, e')) :
    dispatch Table.builtin (depth + 1) surface c e = (.ok v, e') := by
  -- induction on the depth, for the calls that the command makes
  induction depth generalizing surface c e e' v with
  | zero => cases h
  | succ depth ih =>
    cases hget : Table.builtin.get? c.name with
    | none =>
      rw [dispatch_unknown hget] at h ⊢
      exact h
    | some command =>
      obtain ⟨b, -, rfl, -⟩ := Table.builtin_get? hget
      obtain ⟨hv, hsettled, -, -⟩ := dispatch_ok hget h
      have hdeeper : b.settle (depth + 1) c.args.present e = b.settle depth c.args.present e := by
        unfold Builtin.settle at hsettled ⊢
        cases hp : b.plan e.builtinView c.args.present with
        | error fault => rfl
        | ok plan =>
          simp only [hp] at hsettled
          exact plan.perform_deeper ih e hsettled
      rw [dispatch_builtin hget, hv] at h ⊢
      simp only [hdeeper] at h ⊢
      exact h

/-! ### Lists inside lists -/

/-- The calls of the list that a call runs. Other commands run no list. -/
def Call.items (c : Call) : List Call :=
  if c.name = "runJsonCommandList" then
    match c.args.string "commandList" with
    | .ok text =>
      match Call.listOfJson text with
      | .ok calls => calls
      | .error _ => []
    | .error _ => []
  else []

/-- The call itself, the calls of its list, those of the lists among them, and so on. -/
inductive Call.Runs : Call → Call → Prop where
  | self (c : Call) : Runs c c
  | item {c k k' : Call} : k ∈ c.items → Runs k k' → Runs c k'

/-- A list without lists inside it. -/
theorem Call.Runs.self_or_item {c k : Call} (h : c.Runs k)
    (hflat : ∀ k ∈ c.items, k.name ≠ "runJsonCommandList") : k = c ∨ k ∈ c.items := by
  cases h with
  | self _ => exact .inl rfl
  | item hmem hrest =>
    cases hrest with
    | self _ => exact .inr hmem
    | item hinner _ =>
      rw [items, if_neg (hflat _ hmem)] at hinner
      cases hinner

/-- Calls other than those that run lists. -/
def withoutLists (calls : List Call) : List Call :=
  calls.filter fun c => c.name != "runJsonCommandList"

theorem withoutLists_append (calls calls' : List Call) :
    withoutLists (calls ++ calls') = withoutLists calls ++ withoutLists calls' :=
  List.filter_append ..

theorem withoutLists_eq_self {calls : List Call}
    (h : ∀ c ∈ calls, c.name ≠ "runJsonCommandList") : withoutLists calls = calls :=
  List.filter_eq_self.2 fun c hc => bne_iff_ne.2 (h c hc)

theorem withoutLists_list {c : Call} (h : c.name = "runJsonCommandList") :
    withoutLists [c] = [] := by
  simp [withoutLists, h]

/-- What the command for lists does, given the arguments that are recorded. -/
theorem runJsonCommandList_settle {c : Call} (hc : c.name = "runJsonCommandList") (depth : Nat)
    (e : Engine) :
    (∃ fault, Builtin.runJsonCommandList.settle depth c.args.present e = (.error fault, e)) ∨
      Builtin.runJsonCommandList.settle depth c.args.present e =
        (Handler.collect true c.items fun results => .done (.ok (.list results))).run
          (dispatch Table.builtin depth) Table.builtin.definitions e := by
  have hstring : c.args.present.string "commandList" = c.args.string "commandList" := by
    simp only [Args.string, Args.string?, Args.typed, Args.get?_present]
  unfold Builtin.settle Call.items
  simp only [Builtin.runJsonCommandList, hstring, if_pos hc]
  cases c.args.string "commandList" with
  | error fault => exact .inl ⟨fault, rfl⟩
  | ok text =>
    simp only [bind, Except.bind]
    cases Call.listOfJson text with
    | error fault => exact .inl ⟨.json fault, rfl⟩
    | ok calls => exact .inr rfl

/-! ### What follows from the history -/

namespace Engine

/-- The engine without the entries of lists in its history. -/
def unlisted (e : Engine) : Engine := { e with history := withoutLists e.history }

/-- The scene is that of rosters, and colors that are drawn are of some kind. -/
structure Stable (C : Color → Prop) (e : Engine) : Prop where
  alike : e.workspace.Alike C e.workspace
  draws : Drawable C e.draws

/-- From an engine that is stable, what was recorded leads to the other one, but for the entries of
lists; and that one is stable too. -/
def Follows (C : Color → Prop) (e e' : Engine) : Prop :=
  e.Stable C → e'.Stable C ∧ e.unlisted.Replays C e'.unlisted

variable {e e' e'' : Engine}

theorem Follows.refl (C : Color → Prop) (e : Engine) : e.Follows C e :=
  fun he => ⟨he, .refl C _⟩

theorem Follows.trans (h : e.Follows C e') (h' : e'.Follows C e'') : e.Follows C e'' := by
  intro he
  obtain ⟨he', hfirst⟩ := h he
  obtain ⟨he'', hsecond⟩ := h' he'
  exact ⟨he'', hfirst.trans hsecond⟩

/-- Where nothing but the entry of a list is new, there is nothing to replay. -/
theorem Follows.of_list {calls : List Call} (hworkspace : e'.workspace = e.workspace)
    (hhistory : e'.history = e.history ++ calls) (hcalls : withoutLists calls = []) :
    e.Follows C e' := by
  intro he
  refine ⟨?_, [], ?_, ?_⟩
  · have hdraws : e'.draws = e.draws := congrArg Workspace.draws hworkspace
    refine ⟨?_, ?_⟩
    · rw [hworkspace]
      exact he.alike
    · rw [hdraws]
      exact he.draws
  · show withoutLists e'.history = withoutLists e.history ++ []
    rw [hhistory, withoutLists_append, hcalls]
  · intro r _ halike
    refine ⟨[], r, rfl, ?_⟩
    show e'.workspace.Alike C r.workspace
    rw [hworkspace]
    exact halike

/-- The entry of a list itself is left out. -/
theorem Follows.conclude_list {d : Definition} (hd : d.name = "runJsonCommandList")
    (surface : Bool) (args : Args) (result : Except Error Value) (e : Engine) :
    e.Follows C (conclude d surface args result e).2 := by
  have hworkspace := conclude_workspace d surface args result e
  have hown : withoutLists [⟨d.name, args⟩] = [] := withoutLists_list hd
  cases result with
  | ok v => exact .of_list hworkspace (e.record_history d surface args v) hown
  | error fault =>
    cases hl : fault.lookup? with
    | none =>
      rw [conclude_fault d surface args hl]
      exact .refl C e
    | some lookup =>
      refine .of_list hworkspace ?_ hown
      rw [conclude_lookup d surface args hl]
      exact record_history _ d surface args _

end Engine

/-- Calls one after another follow if each of them does. -/
theorem Handler.collect_follows
    {runCall : Bool → Call → Engine → Except Error Value × Engine} {surface : Bool}
    {definitions : List Definition} {calls : List Call}
    (hcalls : ∀ c ∈ calls, ∀ e : Engine, e.Follows C (runCall surface c e).2)
    {next : List Value → Handler} (hnext : ∀ vs, ∃ result, next vs = .done result) (e : Engine) :
    e.Follows C ((collect surface calls next).run runCall definitions e).2 := by
  induction calls generalizing next e with
  | nil =>
    obtain ⟨result, hdone⟩ := hnext []
    rw [collect, hdone]
    exact .refl C e
  | cons c rest ih =>
    obtain ⟨hc, hrest⟩ := List.forall_mem_cons.1 hcalls
    refine (hc e).trans ?_
    simp only [collect, run]
    cases (runCall surface c e).1 with
    | error fault => exact .refl C _
    | ok v => exact ih hrest (fun vs => hnext (v :: vs)) _

/-! ### One call -/

/-- No list is recorded by a call of another command. -/
theorem dispatch_records_no_list (hlimit : ∀ c ≤ Color.limit, C c) {c : Call}
    (hc : c.name ≠ "runJsonCommandList") (hforgets : ¬c.Forgets) {e : Engine}
    (he : e.workspace.Alike C e.workspace) {depth : Nat} {surface : Bool} {v : Value}
    {e' : Engine} (hrun : dispatch Table.builtin (depth + 2) surface c e = (.ok v, e')) :
    ∃ calls, e'.history = e.history ++ calls ∧
      ∀ k ∈ calls, k.name ≠ "runJsonCommandList" := by
  cases hget : Table.builtin.get? c.name with
  | none =>
    rw [dispatch_unknown hget] at hrun
    cases hrun
    exact ⟨[], by simp⟩
  | some command =>
    obtain ⟨b, hb, rfl, hname⟩ := Table.builtin_get? hget
    obtain ⟨-, hsettled, -, hhistory⟩ := dispatch_ok hget hrun
    have hown : b.definition.name ≠ "runJsonCommandList" := hname ▸ hc
    rcases Builtin.plain_or_composite hlimit hb with hplain | hcomposite | rfl
    · have hkept : ¬Call.Forgets ⟨b.definition.name, c.args.present⟩ := by
        rw [hname]
        simpa [Call.Forgets] using hforgets
      rw [hplain.settle_history he hkept] at hhistory
      exact ⟨_, hhistory, by simpa using hown⟩
    · rcases Builtin.composite_plan hcomposite (Engine.builtinView_alike he) c.args.present with
        ⟨fault, hp⟩ | ⟨t, ht, targs, hp⟩
      · rw [Builtin.settle, hp] at hhistory
        exact ⟨_, hhistory, by simpa using hown⟩
      · -- the entry of the command that it runs stands before its own
        obtain ⟨hclear, hreset, hlist⟩ := Builtin.targets_names t ht
        have htarget := Table.builtin_get?_target t ht
        have hkept : ¬Call.Forgets ⟨t.definition.name, targs.present⟩ := by
          rintro (h | ⟨h, -⟩)
          · exact hclear h
          · exact hreset h
        rw [Builtin.settle, hp] at hsettled hhistory
        simp only [Plan.perform_delegate] at hsettled hhistory
        cases hinner : dispatch Table.builtin (depth + 1) false ⟨t.definition.name, targs⟩ e with
        | mk x middle =>
          rw [hinner] at hsettled hhistory
          cases x with
          | error fault =>
            have hnone := dispatch_error (congrArg Prod.fst hinner)
            have hsome := hsettled fault rfl
            simp [hnone] at hsome
          | ok result =>
            obtain ⟨-, -, -, hmiddle⟩ :=
              dispatch_ok (c := ⟨t.definition.name, targs⟩) htarget hinner
            rw [(Builtin.targets_plain hlimit t ht).settle_history he hkept] at hmiddle
            simp only [hmiddle, List.append_assoc] at hhistory
            exact ⟨_, hhistory, by simpa using ⟨hlist, hown⟩⟩
    · exact absurd hname.symm hc

/-- A call that runs no list. -/
theorem follows_of_not_list (hC : ∀ c, C c ↔ c ≤ Color.limit) {c : Call}
    (hc : c.name ≠ "runJsonCommandList") (hforgets : ¬c.Forgets) (depth : Nat) (surface : Bool)
    (e : Engine) : e.Follows C (dispatch Table.builtin depth surface c e).2 := by
  intro he
  have hlimit : ∀ c ≤ Color.limit, C c := fun c hc => (hC c).2 hc
  cases hrun : dispatch Table.builtin depth surface c e with
  | mk x e' =>
    cases x with
    | error fault =>
      have hsane : e.Sane := he.alike.scene.mono fun _ _ => trivial
      have hsame := dispatch_unchanged hsane hc (congrArg Prod.fst hrun)
      rw [hrun] at hsame
      obtain rfl : e' = e := hsame
      exact Engine.Follows.refl C e' he
    | ok v =>
      -- as deep as it takes for the call to be replayed
      have hdeep := dispatch_deeper (dispatch_deeper (dispatch_deeper hrun))
      obtain ⟨halike, hdraws⟩ := dispatch_sound hlimit hc he.alike he.draws hdeep
      obtain ⟨calls, hcalls, hreplay⟩ := dispatch_replays hC hc hforgets he.alike he.draws hdeep
      obtain ⟨calls', hcalls', hnames⟩ :=
        dispatch_records_no_list hlimit hc hforgets he.alike hdeep
      obtain rfl : calls = calls' := List.append_cancel_left (hcalls.symm.trans hcalls')
      refine ⟨⟨halike, hdraws⟩, calls, ?_, hreplay⟩
      show withoutLists e'.history = withoutLists e.history ++ calls
      rw [hcalls, withoutLists_append, withoutLists_eq_self hnames]

/-- **One call** follows, whether it runs a list or not, unless the history is cleared on its
way. -/
theorem dispatch_follows (hC : ∀ c, C c ↔ c ≤ Color.limit) {c : Call}
    (hforgets : ∀ k, c.Runs k → ¬k.Forgets) (depth : Nat) (surface : Bool) (e : Engine) :
    e.Follows C (dispatch Table.builtin depth surface c e).2 := by
  -- induction on the depth, for the calls of a list
  induction depth generalizing c surface e with
  | zero => exact .refl C e
  | succ depth ih =>
    by_cases hc : c.name = "runJsonCommandList"
    · have hget : Table.builtin.get? c.name = some Builtin.runJsonCommandList.command := by
        rw [hc]
        rfl
      rw [dispatch_builtin hget]
      cases hv : c.args.validate Builtin.runJsonCommandList.definition.parameters with
      | error fault => exact .refl C e
      | ok args =>
        obtain rfl := validate_ok hv
        have hitems : e.Follows C
            (Builtin.runJsonCommandList.settle depth c.args.present e).2 := by
          rcases runJsonCommandList_settle hc depth e with ⟨fault, hsettle⟩ | hsettle
          · rw [hsettle]
            exact .refl C e
          · rw [hsettle]
            refine Handler.collect_follows (fun k hk e => ?_) (fun _ => ⟨_, rfl⟩) e
            exact ih (fun k' hk' => hforgets k' (.item hk hk')) true e
        exact hitems.trans (.conclude_list rfl surface c.args.present _ _)
    · exact follows_of_not_list hC hc (hforgets c (.self c)) (depth + 1) surface e

/-! ### The whole history -/

/-- **Calls**, with lists among them. -/
theorem executeAll_follows (hC : ∀ c, C c ↔ c ≤ Color.limit) {calls : List Call}
    (hcalls : ∀ c ∈ calls, ∀ k, c.Runs k → ¬k.Forgets) (e : Engine) :
    e.Follows C (e.executeAll calls) := by
  induction calls generalizing e with
  | nil => exact .refl C e
  | cons c rest ih =>
    obtain ⟨hc, hrest⟩ := List.forall_mem_cons.1 hcalls
    exact (dispatch_follows hC hc _ false e).trans (ih hrest _)

section Transpose

/-- A list that makes a matrix and its transpose. -/
def transposeList : Call := ⟨"runJsonCommandList", .ofList [("commandList", .string (Call.listJson
  [⟨"createIdentityMatrix", .ofList [("name", .string "m")]⟩,
    ⟨"transposeMatrix", .ofList [("matrix", .string "m")]⟩]))]⟩

theorem transposeList_items :
    transposeList.items.map (·.name) = ["createIdentityMatrix", "transposeMatrix"] := by
  decide +kernel

theorem transposeList_forgets {k : Call} (h : transposeList.Runs k) : ¬k.Forgets := by
  have hitems : ∀ k ∈ transposeList.items,
      k.name = "createIdentityMatrix" ∨ k.name = "transposeMatrix" := by
    intro k hk
    have hmem := List.mem_map_of_mem (f := (·.name)) hk
    rw [transposeList_items] at hmem
    simpa using hmem
  have hname : k.name = "runJsonCommandList" ∨ k.name = "createIdentityMatrix" ∨
      k.name = "transposeMatrix" := by
    rcases h.self_or_item fun k hk => by rcases hitems k hk with h | h <;> simp [h] with rfl | hk
    · exact .inl rfl
    · exact .inr (hitems k hk)
  rintro (hclear | ⟨hreset, -⟩)
  · rcases hname with h | h | h <;> simp [h] at hclear
  · rcases hname with h | h | h <;> simp [h] at hreset

/-- What the list leaves in a new engine, and what the calls that are recorded then make there. -/
theorem transposeList_executed {e : Engine} (he : e = Engine.fresh ⟨fun _ => 0.5, 0⟩ {}) :
    let e' := (e.execute Table.builtin transposeList).2
    let r := (e.runList Table.builtin false e'.history).2
    (e.execute Table.builtin transposeList).1.isOk ∧ e'.history.map (·.name) =
        ["createIdentityMatrix", "transposeMatrix", "runJsonCommandList"] ∧
      (e.runList Table.builtin false e'.history).1.isOk ∧
      (e'.scene.matrices.names = ["m", "Result0"] ∧ e'.scene.resultCount = 1) ∧
      r.scene.matrices.names = ["m", "Result0", "Result1"] ∧ r.scene.resultCount = 2 := by
  subst he
  decide +kernel

end Transpose

end VectorScene.Command
