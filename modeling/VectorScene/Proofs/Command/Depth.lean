import VectorScene.Proofs.Command.CallTree
import VectorScene.Proofs.Command.Lists
import VectorScene.Proofs.Command.Schemas
import VectorScene.Proofs.Json.Consumption

/-!
# How deep lists nest

A command list stands in an argument of the call that runs it, and the arguments of its calls are
shorter than the list. So the longest argument of a call bounds how deep lists nest inside it, and
no call from outside stops because calls nest too deep: with room for the lists in its arguments and
two calls more, it does the same however much deeper calls may nest.

## Main definitions

* `Plan.calls`: the calls that a plan is to make

## Main results

* `Call.listOfJson_bytes`, `Call.listOfJson_shorter`: a call in a list is shorter than the list
* `deep`: what a call does, with more room than it needs
-/

namespace VectorScene.Command

open Json

/-! ### What is read from a list -/

namespace Value

/-- The number of bytes of the longest string in the value that a document stands for. -/
def documentLongest (d : Document) : Nat := ((ofDocument? d).map longest).getD 0

theorem documentLongest_array (items : List Document) :
    documentLongest (.array items) ≤ (items.map documentLongest).sum := by
  suffices h : ∀ vs, ofDocuments? items = some vs →
      longestOf vs ≤ (items.map documentLongest).sum by
    simp only [documentLongest, ofDocument?]
    cases hvs : ofDocuments? items with
    | none => exact Nat.zero_le _
    | some vs => exact h vs hvs
  induction items with
  | nil =>
    rintro _ ⟨⟩
    exact Nat.le_refl 0
  | cons d rest ih =>
    intro vs hvs
    simp only [ofDocuments?, Option.bind_eq_bind, Option.pure_def, Option.bind_eq_some_iff,
      Option.some.injEq] at hvs
    obtain ⟨v, hv, rest', hrest, rfl⟩ := hvs
    have hfirst : documentLongest d = v.longest := by simp [documentLongest, hv]
    have := ih rest' hrest
    simp only [longestOf, List.map_cons, List.sum_cons, hfirst]
    omega

theorem documentWith_takes {arrays objects : Reader Document}
    (harrays : ∀ c : Cursor, Takes documentLongest c.bytes (arrays c))
    (hobjects : ∀ c : Cursor, Takes documentLongest c.bytes (objects c)) (c : Cursor) :
    Takes documentLongest c.bytes (documentWith arrays objects c) := by
  have htrim := c.bytes_trim
  have hnext := c.trim.bytes_next
  have hconstant : ∀ (d : Document) (letters : List Char), documentLongest d = 0 →
      Takes documentLongest c.bytes (word c.trim.next letters >>= fun p => pure (d, p.2)) := by
    intro d letters hd
    refine takes_bind (word_takes _ letters) fun _ c₁ h => takes_ok (c := c₁) ?_
    omega
  unfold documentWith
  simp only
  split
  · exact takes_error _
  · split
    · exact hconstant .null _ rfl
    · split
      · exact hconstant (.bool true) _ rfl
      · split
        · exact hconstant (.bool false) _ rfl
        · split
          · refine takes_bind (number_takes c.trim) fun n c₁ h => ?_
            cases n with
            | integer i =>
              have hzero : documentLongest (.integer i) = 0 := by
                simp only [documentLongest, ofDocument?, ofInteger]
                split <;> rfl
              exact takes_ok (a := Document.integer i) (c := c₁) (by omega)
            | float x =>
              have hzero : documentLongest (.float x) = 0 := rfl
              exact takes_ok (a := Document.float x) (c := c₁) (by omega)
          · split
            · refine takes_bind (text_takes c.trim.next) fun s c₁ h => ?_
              have hstring : documentLongest (.string s) = s.utf8ByteSize := rfl
              exact takes_ok (a := Document.string s) (c := c₁) (by omega)
            · split
              · exact (harrays c.trim).mono htrim
              · split
                · exact (hobjects c.trim).mono htrim
                · exact takes_error _

theorem document_takes (depth : Nat) (c : Cursor) :
    Takes documentLongest c.bytes (document depth c) := by
  induction depth generalizing c with
  | zero => exact documentWith_takes (fun _ => takes_error _) (fun _ => takes_error _) c
  | succ depth ih =>
    refine documentWith_takes (fun c => ?_) (fun c => ?_) c
    · refine takes_bind (array_takes ih c) fun all c₁ h => takes_ok ?_
      have := documentLongest_array all
      have := c.bytes_next
      omega
    · -- objects stand for no value
      have hstep : ∀ gathered name (c : Cursor),
          Passes (0 + c.bytes) (member (document depth) gathered name c) := by
        intro gathered name c
        refine takes_bind (colon_takes c) fun _ c₁ h => ?_
        exact takes_bind (ih c₁).passes fun _ c₂ h₂ => takes_ok (by omega)
      refine object_takes hstep rfl ?_ c
      rintro gathered _ ⟨⟩
      exact Nat.le_refl 0

theorem read_takes (depth : Nat) (c : Cursor) : Takes longest c.bytes (Value.read depth c) := by
  refine takes_bind (document_takes depth c) fun d c₁ h => ?_
  simp only
  split
  · rename_i v hv
    have : documentLongest d = v.longest := by simp [documentLongest, hv]
    exact takes_ok (by omega)
  · exact takes_error _

theorem longest_le_longestOf {v : Value} {vs : List Value} (h : v ∈ vs) :
    v.longest ≤ longestOf vs := by
  induction vs with
  | nil => cases h
  | cons first rest ih =>
    simp only [longestOf]
    rcases List.mem_cons.1 h with rfl | h
    · exact Nat.le_max_left _ _
    · exact Nat.le_trans (ih h) (Nat.le_max_right _ _)

theorem longestOf_le {vs : List Value} {n : Nat} (h : ∀ v ∈ vs, v.longest ≤ n) :
    longestOf vs ≤ n := by
  induction vs with
  | nil => exact Nat.zero_le n
  | cons first rest ih =>
    obtain ⟨hfirst, hrest⟩ := List.forall_mem_cons.1 h
    exact Nat.max_le.2 ⟨hfirst, ih hrest⟩

end Value

namespace Args

theorem mem_ofList {entries : List (String × Value)} {entry : String × Value}
    (h : entry ∈ (ofList entries).entries) : entry ∈ entries := by
  have hfold : ∀ args : Args,
      entry ∈ (entries.foldl (fun args e => args.insert e.1 e.2) args).entries →
        entry ∈ entries ∨ entry ∈ args.entries := by
    clear h
    induction entries with
    | nil => exact fun args h => .inr h
    | cons first rest ih =>
      intro args h
      rcases ih (args.insert first.1 first.2) h with h | h
      · exact .inl (List.mem_cons_of_mem _ h)
      · rcases mem_insertEntry h with rfl | h
        · exact .inl List.mem_cons_self
        · exact .inr h
  rcases hfold empty h with h | h
  · exact h
  · cases h

theorem longest_ofList (entries : List (String × Value)) :
    (ofList entries).longest ≤ (entries.map (·.2.longest)).sum := by
  refine Value.longestOf_le fun v hv => ?_
  obtain ⟨e, he, rfl⟩ := List.mem_map.1 hv
  exact List.le_sum_of_mem (List.mem_map.2 ⟨e, mem_ofList he, rfl⟩)

theorem longest_of_get? {args : Args} {name : String} {v : Value} (h : args.get? name = some v) :
    v.longest ≤ args.longest :=
  Value.longest_le_longestOf (List.mem_map.2 ⟨_, (get?_eq_some_iff.1 h).1, rfl⟩)

end Args

namespace Call

theorem readArgs_takes (c : Cursor) : Takes Args.longest c.bytes (readArgs c) := by
  have htrim := c.bytes_trim
  unfold readArgs
  simp only
  split
  · have hstep : ∀ gathered name (c : Cursor),
        Takes (fun all : List (String × Value) => (all.map (·.2.longest)).sum)
          ((gathered.map (·.2.longest)).sum + c.bytes)
          (member (Value.read valueDepth) gathered name c) := by
      intro gathered name c
      refine takes_bind (colon_takes c) fun _ c₁ h₁ => ?_
      refine takes_bind (Value.read_takes _ c₁) fun v c₂ h₂ => takes_ok ?_
      simp only [List.map_append, List.sum_append, List.map_cons, List.map_nil, List.sum_cons,
        List.sum_nil]
      omega
    refine Takes.mono (object_takes hstep rfl ?_ _) htrim
    rintro gathered _ ⟨⟩
    exact Args.longest_ofList gathered
  · exact takes_error _

/-- The number of bytes of the name of a call and of the longest string in its arguments. -/
def bytes (k : Call) : Nat := k.name.utf8ByteSize + k.args.longest

/-- The same for the members of a call that were gathered. -/
def gatheredBytes (gathered : Option String × Option Args) : Nat :=
  (gathered.1.map String.utf8ByteSize).getD 0 + (gathered.2.map Args.longest).getD 0

theorem readMember_takes (gathered : Option String × Option Args) (key : String) (c : Cursor) :
    Takes gatheredBytes (gatheredBytes gathered + c.bytes) (readMember gathered key c) := by
  obtain ⟨gatheredName, gatheredArgs⟩ := gathered
  unfold readMember
  split
  · split
    · exact takes_error _
    · refine takes_bind (colon_takes c) fun _ c₁ h₁ => ?_
      refine takes_bind (string_takes c₁) fun name c₂ h₂ => takes_ok ?_
      simp only [gatheredBytes, Option.map_some, Option.getD_some]
      omega
  · split
    · split
      · exact takes_error _
      · refine takes_bind (colon_takes c) fun _ c₁ h₁ => ?_
        refine takes_bind (readArgs_takes c₁) fun args c₂ h₂ => takes_ok ?_
        simp only [gatheredBytes, Option.map_some, Option.getD_some]
        omega
    · refine takes_bind (colon_takes c) fun _ c₁ h₁ => ?_
      exact takes_bind (passValue_takes c₁) fun _ c₂ h₂ => takes_ok (by omega)

theorem readItems_takes (c : Cursor) : Takes bytes c.bytes (readItems c) := by
  have hempty : Args.empty.longest = 0 := rfl
  refine takes_bind (nextItem_takes _ _ c) fun more c₁ h₁ => ?_
  simp only
  split
  · exact takes_error _
  · refine takes_bind (string_takes c₁) fun name c₂ h₂ => ?_
    refine takes_bind (nextItem_takes _ _ c₂) fun more c₃ h₃ => ?_
    simp only
    split
    · exact takes_ok (by simp only [bytes, hempty]; omega)
    · exact takes_bind (readArgs_takes c₃) fun args c₄ h₄ =>
        takes_ok (by simp only [bytes]; omega)

theorem read_takes (c : Cursor) : Takes bytes c.bytes (Call.read c) := by
  have htrim := c.bytes_trim
  have hnext := c.trim.bytes_next
  unfold Call.read
  simp only
  split
  · refine Takes.mono (object_takes readMember_takes rfl ?_ _) htrim
    rintro ⟨name, args⟩ k h
    unfold ofMembers at h
    split at h
    · rename_i name hname
      cases h
      obtain rfl : _ = some name := hname
      simp only [bytes, gatheredBytes, Option.map_some, Option.getD_some]
      cases args with
      | none => exact Nat.le_refl _
      | some args => exact Nat.le_refl _
    · cases h
  · split
    · exact (finish_takes .array (readItems_takes c.trim.next)).mono (by omega)
    · exact takes_error _

/-- **A call in a list**, its name and any string in its arguments, is shorter than the list. -/
theorem listOfJson_bytes {text : String} {calls : List Call}
    (h : Call.listOfJson text = .ok calls) {k : Call} (hk : k ∈ calls) :
    k.bytes < text.utf8ByteSize := by
  unfold listOfJson Reader.run at h
  have hbytes : (Cursor.start text.toList).bytes = text.utf8ByteSize := by
    rw [Cursor.bytes, Cursor.start, ← byteLength_ofList, String.ofList_toList]
  split at h
  · cases h
  · rename_i all c hread
    have htrim := (Cursor.start text.toList).bytes_trim
    simp only at h
    split at h
    · cases h
      unfold readList at hread
      simp only at hread
      split at hread
      · rename_i hbracket
        -- the bracket belongs to no call
        obtain ⟨rest, hrest⟩ : ∃ rest, (Cursor.start text.toList).trim.rest = '[' :: rest := by
          cases hrest : (Cursor.start text.toList).trim.rest with
          | nil => simp [hrest] at hbracket
          | cons char rest =>
            rw [hrest, List.head?_cons, Option.some.injEq] at hbracket
            exact ⟨rest, by rw [hbracket]⟩
        have hnext := Cursor.bytes_next_of hrest
        have hone : '['.utf8Size = 1 := by decide
        have hsum : (calls.map bytes).sum + c.bytes ≤ _ :=
          array_takes read_takes _ _ _ hread
        have hmem := List.le_sum_of_mem (List.mem_map_of_mem (f := bytes) hk)
        omega
      · cases hread
    · cases h

/-- **The arguments of a call in a list** are shorter than the list. -/
theorem listOfJson_shorter {text : String} {calls : List Call}
    (h : Call.listOfJson text = .ok calls) {k : Call} (hk : k ∈ calls) :
    k.args.longest < text.utf8ByteSize :=
  Nat.lt_of_le_of_lt (Nat.le_add_left _ _) (listOfJson_bytes h hk)

/-- The calls of a list are those that its text gives. -/
theorem of_mem_items {c k : Call} (h : k ∈ c.items) : ∃ text calls,
    c.args.get? "commandList" = some (.string text) ∧ listOfJson text = .ok calls ∧ k ∈ calls := by
  unfold items at h
  split at h
  · split at h
    · rename_i text htext
      split at h
      · rename_i calls hcalls
        refine ⟨text, calls, ?_, hcalls, h⟩
        simp only [Args.string, Args.string?, Args.typed, Args.needed] at htext
        cases hv : c.args.get? "commandList" with
        | none => simp [hv] at htext
        | some v =>
          cases v with
          | string s =>
            simp only [hv, Value.toString?, Except.ok.injEq] at htext
            rw [htext]
          | _ => simp [hv, Value.toString?] at htext
      · cases h
    · cases h
  · cases h

theorem items_shorter {c k : Call} (h : k ∈ c.items) : k.args.longest < c.args.longest := by
  obtain ⟨text, calls, hget, hcalls, hk⟩ := of_mem_items h
  have hle := Args.longest_of_get? hget
  simp only [Value.longest] at hle
  exact Nat.lt_of_lt_of_le (listOfJson_shorter hcalls hk) hle

end Call

/-! ### The calls of a plan -/

/-- The calls that a plan is to make. -/
def Plan.calls : Plan → List Call
  | .delegate c => [c]
  | .replay calls => calls
  | _ => []

section Congruence

variable {runCall runCall' : Bool → Call → Engine → Except Error Value × Engine}
  {inner inner' : Call → Engine → List Happening} {definitions : List Definition}

/-- Calls that do the same one by one do the same one after another. -/
theorem Handler.collect_congr {surface : Bool} {calls : List Call}
    (hrun : ∀ c ∈ calls, ∀ surface e, runCall surface c e = runCall' surface c e)
    (hinner : ∀ c ∈ calls, ∀ e, inner c e = inner' c e) {next : List Value → Handler}
    (hnext : ∀ vs, ∃ result, next vs = .done result) (e : Engine) :
    (collect surface calls next).run runCall definitions e =
        (collect surface calls next).run runCall' definitions e ∧
      (collect surface calls next).happenings runCall inner definitions e =
        (collect surface calls next).happenings runCall' inner' definitions e := by
  induction calls generalizing next e with
  | nil =>
    obtain ⟨result, hdone⟩ := hnext []
    rw [collect, hdone]
    exact ⟨rfl, rfl⟩
  | cons c rest ih =>
    obtain ⟨hc, hrest⟩ := List.forall_mem_cons.1 hrun
    obtain ⟨hic, hirest⟩ := List.forall_mem_cons.1 hinner
    simp only [collect, run, happenings, hc, hic]
    cases (runCall' surface c e).1 with
    | error fault => exact ⟨rfl, rfl⟩
    | ok v =>
      have hsame := ih hrest hirest (fun vs => hnext (v :: vs)) (runCall' surface c e).2
      exact ⟨hsame.1, congrArg _ hsame.2⟩

/-- A plan does the same if its calls do. -/
theorem Plan.congr {plan : Plan} (definitions : List Definition)
    (hrun : ∀ c ∈ plan.calls, ∀ surface e, runCall surface c e = runCall' surface c e)
    (hinner : ∀ c ∈ plan.calls, ∀ e, inner c e = inner' c e) (e : Engine) :
    plan.handler.run runCall definitions e = plan.handler.run runCall' definitions e ∧
      plan.handler.happenings runCall inner definitions e =
        plan.handler.happenings runCall' inner' definitions e := by
  cases plan with
  | answer result => exact ⟨rfl, rfl⟩
  | change c => exact ⟨rfl, rfl⟩
  | forget result => exact ⟨rfl, rfl⟩
  | reset forgets => cases forgets <;> exact ⟨rfl, rfl⟩
  | delegate c =>
    have hc := hrun c (List.mem_singleton_self c)
    have hic := hinner c (List.mem_singleton_self c)
    simp only [handler, Handler.run, Handler.happenings, hc, hic, and_self]
  | replay calls => exact Handler.collect_congr hrun hinner (fun _ => ⟨_, rfl⟩) e

end Congruence

/-- What happens inside a call of a built-in command. -/
theorem inside_builtin {b : Builtin} {c : Call}
    (hb : Table.builtin.get? c.name = some b.command) (depth : Nat) (e : Engine) :
    inside Table.builtin (depth + 1) c e =
      match c.args.validate b.definition.parameters with
      | .error _ => []
      | .ok args =>
        match b.plan e.builtinView args with
        | .error _ => []
        | .ok plan => plan.handler.happenings (dispatch Table.builtin depth)
            (inside Table.builtin depth) Table.builtin.definitions e := by
  have hdefinition : b.command.definition = b.definition := rfl
  rw [inside]
  simp only [hb, hdefinition]
  cases c.args.validate b.definition.parameters with
  | error fault => rfl
  | ok args =>
    simp only [Builtin.command, Handler.happenings, Engine.builtinView]
    cases b.plan (e.view Table.builtin.definitions) args <;> rfl

namespace Builtin

theorem gives_bind {ε α β : Type} {P : β → Prop} {x : Except ε α} {f : α → Except ε β}
    (hf : ∀ a, Gives P (f a)) : Gives P (x >>= f) := by
  cases x with
  | error fault => exact nofun
  | ok a => exact hf a

/-- What composites run makes no calls. -/
theorem targets_calls : ∀ t ∈ targets, ∀ view args,
    Gives (fun plan => plan.calls = []) (t.plan view args) := by
  have hchange : ∀ change : Change,
      Gives (fun plan => plan.calls = []) (.ok (.change change) : Except Error Plan) := by
    rintro change _ ⟨⟩
    rfl
  simp only [targets, List.forall_mem_cons]
  refine ⟨?_, ?_, ?_, by simp⟩
  all_goals
    intro view args
    repeat refine gives_bind fun _ => ?_
    exact hchange _

theorem runJsonCommandList_mem : runJsonCommandList ∈ Builtin.all := by
  simp [Builtin.all, metaCommands]

/-- The other commands make calls of targets only. -/
theorem calls_target {b : Builtin} (hb : b ∈ Builtin.all)
    (hlist : b.definition.name ≠ "runJsonCommandList") {args : Args}
    (hfit : args.Fit b.definition.parameters) {view : View} {plan : Plan}
    (hplan : b.plan view args.present = .ok plan) {k : Call} (hk : k ∈ plan.calls) :
    ∃ t ∈ targets, k.name = t.definition.name := by
  have hsound := all_sound hb hlist view args.present hfit.present
  rw [hplan] at hsound
  cases plan with
  | delegate c =>
    obtain rfl : k = c := List.mem_singleton.1 hk
    obtain ⟨t, ht, hname, -⟩ := hsound
    exact ⟨t, ht, hname⟩
  | replay calls => exact hsound.elim
  | _ => cases hk

/-- The command for lists makes the calls of its list. -/
theorem runJsonCommandList_calls {c : Call} (hc : c.name = "runJsonCommandList") (view : View) :
    Gives (fun plan => plan = .replay c.items)
      (runJsonCommandList.plan view c.args.present) := by
  have hstring : c.args.present.string "commandList" = c.args.string "commandList" := by
    simp only [Args.string, Args.string?, Args.typed, Args.get?_present]
  intro plan hplan
  simp only [runJsonCommandList, hstring] at hplan
  unfold Call.items
  simp only [if_pos hc]
  cases htext : c.args.string "commandList" with
  | error fault => simp [htext, bind, Except.bind] at hplan
  | ok text =>
    simp only [htext, bind, Except.bind] at hplan ⊢
    cases hlist : Call.listOfJson text with
    | error fault =>
      rw [hlist] at hplan
      cases hplan
    | ok calls =>
      rw [hlist] at hplan
      cases hplan
      rfl

theorem list_not_delegate {b : Builtin} (hb : b ∈ Builtin.all)
    (hlist : b.definition.name = "runJsonCommandList") (args : Args) (view : View) (k : Call) :
    b.plan view args.present ≠ .ok (.delegate k) := by
  obtain rfl := eq_of_name hb runJsonCommandList_mem hlist
  intro h
  have hreplay := runJsonCommandList_calls (c := ⟨_, args⟩) hlist view _ h
  cases hreplay

/-- No other command runs a list. -/
theorem name_of_replay {b : Builtin} (hb : b ∈ Builtin.all) {args : Args}
    (hfit : args.Fit b.definition.parameters) {view : View} {calls : List Call}
    (hplan : b.plan view args.present = .ok (.replay calls)) :
    b.definition.name = "runJsonCommandList" := by
  by_contra hlist
  have hsound := all_sound hb hlist view args.present hfit.present
  rw [hplan] at hsound
  exact hsound

end Builtin

/-! ### Room to nest -/

/-- With room for one call, a target does the same however much room there is. -/
theorem target_deep {t : Builtin} (ht : t ∈ Builtin.targets) {c : Call}
    (hc : c.name = t.definition.name) (depth : Nat) (surface : Bool) (e : Engine) :
    dispatch Table.builtin (depth + 2) surface c e =
        dispatch Table.builtin (depth + 1) surface c e ∧
      inside Table.builtin (depth + 2) c e = inside Table.builtin (depth + 1) c e := by
  have hget : Table.builtin.get? c.name = some t.command := by
    rw [hc]
    exact Table.builtin_get?_target t ht
  rw [dispatch_builtin hget, dispatch_builtin hget, inside_builtin hget, inside_builtin hget]
  cases c.args.validate t.definition.parameters with
  | error fault => exact ⟨rfl, rfl⟩
  | ok args =>
    simp only [Builtin.settle]
    cases hp : t.plan e.builtinView args with
    | error fault => exact ⟨rfl, rfl⟩
    | ok plan =>
      have hnone := Builtin.targets_calls t ht _ _ plan hp
      have hcalls : ∀ k ∈ plan.calls, ∀ surface e,
          dispatch Table.builtin (depth + 1) surface k e =
              dispatch Table.builtin depth surface k e ∧
            inside Table.builtin (depth + 1) k e = inside Table.builtin depth k e := by
        simp [hnone]
      have hsame := plan.congr Table.builtin.definitions
        (fun k hk surface e => (hcalls k hk surface e).1)
        (fun k hk e => (hcalls k hk false e).2) e
      simp only [Plan.perform, hsame, and_self]

/-- **A call** for whose lists there is room does the same however much room there is. -/
theorem deep {c : Call} {depth : Nat} (h : c.args.longest + 2 ≤ depth) (surface : Bool)
    (e : Engine) :
    dispatch Table.builtin (depth + 1) surface c e = dispatch Table.builtin depth surface c e ∧
      inside Table.builtin (depth + 1) c e = inside Table.builtin depth c e := by
  -- induction on the room, which shrinks with each list by as much as the longest argument
  induction depth generalizing c surface e with
  | zero => omega
  | succ depth ih =>
    cases hget : Table.builtin.get? c.name with
    | none =>
      rw [dispatch_unknown hget, dispatch_unknown hget, inside, inside]
      simp only [hget, and_self]
    | some command =>
      obtain ⟨b, hb, rfl, hname⟩ := Table.builtin_get? hget
      rw [dispatch_builtin hget, dispatch_builtin hget, inside_builtin hget, inside_builtin hget]
      cases hv : c.args.validate b.definition.parameters with
      | error fault => exact ⟨rfl, rfl⟩
      | ok args =>
        obtain rfl := validate_ok hv
        simp only [Builtin.settle]
        cases hp : b.plan e.builtinView c.args.present with
        | error fault => exact ⟨rfl, rfl⟩
        | ok plan =>
          have hcalls : ∀ k ∈ plan.calls, ∀ surface e,
              dispatch Table.builtin (depth + 1) surface k e =
                  dispatch Table.builtin depth surface k e ∧
                inside Table.builtin (depth + 1) k e = inside Table.builtin depth k e := by
            intro k hk surface e
            by_cases hlist : b.definition.name = "runJsonCommandList"
            · -- a call of the list, whose arguments are shorter
              obtain rfl := Builtin.eq_of_name hb Builtin.runJsonCommandList_mem hlist
              obtain rfl := Builtin.runJsonCommandList_calls hname.symm _ plan hp
              have hshorter := Call.items_shorter hk
              exact ih (by omega) surface e
            · -- a call of a target
              obtain ⟨t, ht, hname⟩ := Builtin.calls_target hb hlist (Args.validate_fit hv) hp hk
              obtain ⟨depth, rfl⟩ : ∃ n, depth = n + 1 := ⟨depth - 1, by omega⟩
              exact target_deep ht hname depth surface e
          have hsame := plan.congr Table.builtin.definitions
            (fun k hk surface e => (hcalls k hk surface e).1)
            (fun k hk e => (hcalls k hk false e).2) e
          simp only [Plan.perform, hsame, and_self]

end VectorScene.Command
