import VectorScene.Command.Call
import VectorScene.Proofs.Json.Spelling

/-!
# A history survives its JSON text

The JSON text of a command list is read as that list again. All that is lost are the floats that are
not finite, for which the text has nothing but null.

## Main definitions

* `Value.depth`, `Value.floats`: how deep a value is nested, and the floats in it
* `Value.finitePart`, `Args.finitePart`, `Call.finitePart`: what there is in the text

## Main results

* `Value.document_jsonChars`, `Value.ofDocument?_toDocument`: a value through its document
* `Call.read_jsonChars`: a call
* `Call.listOfJson_listJson`: a command list
-/

namespace VectorScene.Command

open Json (Spells Reaches Ends Gathers reaches_bind reaches_ok)

/-! ### Values -/

namespace Value

mutual

/-- How many lists are nested in a value. -/
def depth : Value → Nat
  | list items => depthOf items + 1
  | _ => 0

/-- How many lists are nested in some values. -/
def depthOf : List Value → Nat
  | [] => 0
  | v :: rest => max (depth v) (depthOf rest)

end

mutual

/-- The floats in a value, however deep. -/
def floats : Value → List Float
  | float x => [x]
  | list items => floatsOf items
  | _ => []

/-- The floats in some values. -/
def floatsOf : List Value → List Float
  | [] => []
  | v :: rest => floats v ++ floatsOf rest

end

mutual

/-- The value with an absent one for every float that is not finite. -/
def finitePart : Value → Value
  | float x => if Decimal.isFinite x then float x else absent
  | list items => list (finiteParts items)
  | v => v

/-- The values with absent ones for every float that is not finite. -/
def finiteParts : List Value → List Value
  | [] => []
  | v :: rest => finitePart v :: finiteParts rest

end

mutual

/-- A value without such floats is its own finite part. -/
theorem finitePart_of_finite (v : Value) (h : ∀ x ∈ v.floats, Decimal.isFinite x = true) :
    v.finitePart = v := by
  cases v with
  | float x => rw [finitePart, if_pos (h x (by simp [floats]))]
  | list items => rw [finitePart, finiteParts_of_finite items (by simpa only [floats] using h)]
  | absent | bool _ | int _ | string _ => rw [finitePart]; all_goals nofun

theorem finiteParts_of_finite (vs : List Value)
    (h : ∀ x ∈ floatsOf vs, Decimal.isFinite x = true) : finiteParts vs = vs := by
  cases vs with
  | nil => rw [finiteParts]
  | cons v rest =>
    simp only [floatsOf, List.mem_append] at h
    rw [finiteParts, finitePart_of_finite v fun x hx => h x (.inl hx),
      finiteParts_of_finite rest fun x hx => h x (.inr hx)]

end

mutual

/-- The value of a document that was a value. Integers come back as integers because they fit. -/
theorem ofDocument?_toDocument (v : Value) : ofDocument? v.toDocument = some v.finitePart := by
  cases v with
  | absent => rfl
  | bool b => rfl
  | int i => simp [toDocument, ofDocument?, ofInteger, Decimal.toInt64?_toInt, finitePart]
  | float x =>
    simp only [toDocument, finitePart]
    split <;> rfl
  | string s => rfl
  | list items => simp [toDocument, ofDocument?, finitePart, ofDocuments?_toDocuments items]

theorem ofDocuments?_toDocuments (vs : List Value) :
    ofDocuments? (toDocuments vs) = some (finiteParts vs) := by
  cases vs with
  | nil => rfl
  | cons v rest =>
    simp [toDocuments, ofDocuments?, finiteParts, ofDocument?_toDocument v,
      ofDocuments?_toDocuments rest]

end

/-- The floats of some values that are finite have texts with their values. -/
def Written (floats : List Float) : Prop :=
  ∀ x ∈ floats, Decimal.isFinite x = true → Json.ReadsBack x

mutual

/-- **The text of a value** is read as its document, if it is not nested too deep. -/
theorem document_jsonChars (v : Value) {limit : Nat} (hdepth : v.depth ≤ limit)
    (hfloats : Written v.floats) :
    Spells (Json.document limit) v.jsonChars v.toDocument := by
  obtain ⟨arrays, objects, hlimit⟩ := Json.exists_documentWith limit
  cases v with
  | absent => rw [hlimit]; exact Json.documentWith_null
  | bool b => rw [hlimit]; exact Json.documentWith_bool b
  | int i =>
    rw [hlimit]
    refine Json.documentWith_number ?_ fun p rest hrest => Json.number_integerChars i hrest p
    rw [← Json.Numeral.chars_ofInteger]
    exact Json.Numeral.chars_start (Json.Numeral.regular_ofInteger _)
  | float x =>
    rw [hlimit]
    by_cases hfinite : Decimal.isFinite x = true
    · have hback : Json.ReadsBack x := hfloats x (by simp [floats]) hfinite
      obtain ⟨n, htext, hregular, -⟩ := Json.floatChars_numeral hfinite
      simp only [toDocument, if_pos hfinite]
      refine Json.documentWith_number ?_ fun p rest hrest =>
        Json.number_floatChars hfinite hback hrest p
      rw [htext]
      exact Json.Numeral.chars_start hregular
    · simp only [toDocument, jsonChars, Json.floatChars, if_neg hfinite]
      exact Json.documentWith_null
  | string s => rw [hlimit]; exact Json.documentWith_string s
  | list items =>
    simp only [depth] at hdepth
    obtain ⟨limit, rfl⟩ : ∃ n, limit = n + 1 := ⟨limit - 1, by omega⟩
    exact Json.document_array
      (documents_jsonTexts items (by omega) (by simpa only [floats] using hfloats))

theorem documents_jsonTexts (vs : List Value) {limit : Nat} (hdepth : depthOf vs ≤ limit)
    (hfloats : Written (floatsOf vs)) :
    List.Forall₂ (Spells (Json.document limit)) (jsonTexts vs) (toDocuments vs) := by
  cases vs with
  | nil => exact .nil
  | cons v rest =>
    simp only [depthOf, Nat.max_le] at hdepth
    simp only [Written, floatsOf, List.mem_append] at hfloats
    exact .cons (document_jsonChars v hdepth.1 fun x hx => hfloats x (.inl hx))
      (documents_jsonTexts rest hdepth.2 fun x hx => hfloats x (.inr hx))

end

/-- The text of a value is read as its finite part. -/
theorem read_jsonChars (v : Value) {limit : Nat} (hdepth : v.depth ≤ limit)
    (hfloats : Written v.floats) : Spells (Value.read limit) v.jsonChars v.finitePart := by
  obtain ⟨hsolid, hreads⟩ := document_jsonChars v hdepth hfloats
  refine ⟨hsolid, fun p rest hrest => reaches_bind (hreads p rest hrest) fun q => ⟨q, ?_⟩⟩
  simp only [ofDocument?_toDocument]
  rfl

end Value

/-! ### Arguments -/

namespace Args

/-- The arguments with absent values for the floats that are not finite. -/
def finitePart (args : Args) : Args :=
  ⟨args.entries.map fun e => (e.1, e.2.finitePart), List.pairwise_map.2 args.sorted⟩

/-- How many lists are nested in the arguments. -/
def depth (args : Args) : Nat := Value.depthOf (args.entries.map (·.2))

/-- The floats in the arguments. -/
def floats (args : Args) : List Float := Value.floatsOf (args.entries.map (·.2))

theorem insertEntry_last {entries : List (String × Value)} {name : String} (value : Value)
    (h : ∀ e ∈ entries, e.1 < name) :
    insertEntry name value entries = entries ++ [(name, value)] := by
  induction entries with
  | nil => rfl
  | cons first rest ih =>
    have hfirst := h first List.mem_cons_self
    have hrest := ih fun e he => h e (List.mem_cons_of_mem _ he)
    have hne : name ≠ first.1 := (String.ne_of_lt hfirst).symm
    rw [insertEntry, if_neg (String.lt_asymm hfirst), if_neg hne, hrest, List.cons_append]

/-- Entries that come in their order are added at the end. -/
theorem entries_foldl_insert (rest : List (String × Value)) (args : Args)
    (h : (args.entries ++ rest).Pairwise (·.1 < ·.1)) :
    (rest.foldl (fun args e => args.insert e.1 e.2) args).entries = args.entries ++ rest := by
  induction rest generalizing args with
  | nil => simp
  | cons e rest ih =>
    have hlast : (args.insert e.1 e.2).entries = args.entries ++ [e] :=
      insertEntry_last e.2 fun f hf => (List.pairwise_append.1 h).2.2 f hf e List.mem_cons_self
    rw [List.foldl_cons, ih _ (by simpa [hlast] using h), hlast]
    simp

theorem ofList_entries (args : Args) : ofList args.entries = args := by
  have h := entries_foldl_insert args.entries empty args.sorted
  change (ofList args.entries).entries = args.entries at h
  obtain ⟨entries, hsorted⟩ := args
  generalize ofList _ = other at h
  cases h
  rfl

end Args

/-! ### Calls -/

namespace Call

/-- The call with absent values for the floats that are not finite. -/
def finitePart (c : Call) : Call := ⟨c.name, c.args.finitePart⟩

/-- Members with the texts of values are gathered as their finite parts. -/
theorem gathers_values {entries : List (String × Value)} {limit : Nat}
    (hdepth : Value.depthOf (entries.map (·.2)) ≤ limit)
    (hfloats : Value.Written (Value.floatsOf (entries.map (·.2)))) (g : List (String × Value)) :
    Gathers (Json.member (Value.read limit)) g (entries.map fun e => (e.1, e.2.jsonChars))
      (g ++ entries.map fun e => (e.1, e.2.finitePart)) := by
  induction entries generalizing g with
  | nil => simpa using Gathers.done g
  | cons e entries ih =>
    simp only [List.map_cons, Value.depthOf, Nat.max_le] at hdepth
    simp only [List.map_cons, Value.Written, Value.floatsOf, List.mem_append] at hfloats
    have hvalue := Value.read_jsonChars e.2 hdepth.1 fun x hx => hfloats x (.inl hx)
    have hmore := ih hdepth.2 (fun x hx => hfloats x (.inr hx)) (g ++ [(e.1, e.2.finitePart)])
    rw [List.append_assoc] at hmore
    refine .member (fun p rest hrest => ?_) hmore
    refine reaches_bind (Json.colon_cons p _) fun q => ?_
    exact reaches_bind (hvalue.reads q rest hrest) fun q => reaches_ok _ q rest

/-- The text of arguments is read as their finite part. -/
theorem readArgs_jsonChars {args : Args} (hdepth : args.depth ≤ valueDepth)
    (hfloats : Value.Written args.floats) (p : Json.Position) (rest : List Char) :
    Reaches (readArgs ⟨p, args.jsonChars ++ rest⟩) args.finitePart rest := by
  have hgathers := gathers_values hdepth hfloats []
  rw [List.nil_append] at hgathers
  change Reaches (Json.object (Json.member (Value.read valueDepth)) []
    (fun all => .ok (Args.ofList all)) ⟨p, args.jsonChars ++ rest⟩) _ _
  refine Json.object_objectChars hgathers ?_ p rest
  exact congrArg Except.ok (Args.ofList_entries args.finitePart)

/-- **A call** is read as its finite part. -/
theorem read_jsonChars {c : Call} (hdepth : c.args.depth ≤ valueDepth)
    (hfloats : Value.Written c.args.floats) : Spells Call.read c.jsonChars c.finitePart := by
  have hname : ∀ p rest, Ends rest → Reaches
      (readMember (none, none) nameKey ⟨p, ':' :: (Json.encode c.name ++ rest)⟩)
      (some c.name, none) rest := by
    intro p rest hrest
    refine reaches_bind (Json.colon_cons p _) fun q => ?_
    exact reaches_bind ((Json.string_encode c.name).reads q rest hrest) fun q => reaches_ok _ q rest
  have hargs : ∀ p rest, Ends rest → Reaches
      (readMember (some c.name, none) argsKey ⟨p, ':' :: (c.args.jsonChars ++ rest)⟩)
      (some c.name, some c.args.finitePart) rest := by
    intro p rest _
    refine reaches_bind (Json.colon_cons p _) fun q => ?_
    exact reaches_bind (readArgs_jsonChars hdepth hfloats q rest) fun q => reaches_ok _ q rest
  have hresult : ofMembers (some c.name, some c.args.finitePart) = .ok c.finitePart := rfl
  refine ⟨Json.solid_objectChars _, fun p rest _ => ?_⟩
  have hobject : read ⟨p, c.jsonChars ++ rest⟩ =
      Json.object readMember (none, none) ofMembers ⟨p, c.jsonChars ++ rest⟩ := by
    have hblank : Json.isBlank '\x7b' = false := rfl
    unfold read
    simp [jsonChars, Json.objectChars, Json.Cursor.trim_cons hblank]
  rw [hobject]
  exact Json.object_objectChars (.member hname (.member hargs (.done _))) hresult p rest

/-- **A command list** is read from its JSON text as the same calls in the same order, with absent
values for the floats that are not finite. Values may be nested as deep as the reader goes, and the
texts of the finite floats have to have their values. -/
theorem listOfJson_listJson (calls : List Call) (hdepth : ∀ c ∈ calls, c.args.depth ≤ valueDepth)
    (hfloats : ∀ c ∈ calls, ∀ x ∈ c.args.floats, Decimal.isFinite x = true → Json.ReadsBack x) :
    listOfJson (listJson calls) = .ok (calls.map finitePart) := by
  refine Json.Reader.run_ofList ⟨Json.solid_arrayChars _, fun p rest _ => ?_⟩
  refine Json.array_arrayChars ?_ p rest
  induction calls with
  | nil => exact .nil
  | cons c calls ih =>
    refine .cons (read_jsonChars (hdepth c List.mem_cons_self) (hfloats c List.mem_cons_self)) ?_
    exact ih (fun c hc => hdepth c (List.mem_cons_of_mem _ hc))
      fun c hc => hfloats c (List.mem_cons_of_mem _ hc)

/-- A command list in which little is plain, with these in the place of two floats. -/
def tangled (first second : Value) : List Call :=
  [⟨"naïve \"name\"\\", ⟨[("", .absent), ("float", .float 1.0), ("int", .int 1),
      ("ключ\n", .bool false)], by decide⟩⟩,
    ⟨"", ⟨[("floats", .list [.float (-0.0), .list [.float 0.1, first], .float 1e300, second]),
      ("limits", .list [.int Int64.minValue, .int Int64.maxValue, .list []]),
      ("texts", .list [.string "null", .string "true", .string "1", .string "\x00\t\x1f/😀"])],
      List.pairwise_map.1 (show ["floats", "limits", "texts"].Pairwise (· < ·) by decide)⟩⟩]

/-- Neither of the two floats is finite. -/
def endless : List Call := tangled (.float (0.0 / 0.0)) (.float (-1.0 / 0.0))

theorem listOfJson_listJson_endless :
    (∀ c ∈ endless, c.args.depth ≤ valueDepth) ∧
    (∀ c ∈ endless, ∀ x ∈ c.args.floats, Decimal.isFinite x = true → Json.ReadsBack x) ∧
    listOfJson (listJson endless) = .ok (tangled .absent .absent) := by
  have hdepth : ∀ c ∈ endless, c.args.depth ≤ valueDepth := by decide
  have hback : ∀ c ∈ endless, ∀ x ∈ c.args.floats,
      Decimal.isFinite x = true → Json.ReadsBack x := by decide +kernel
  have hfinite : ∀ x ∈ [1.0, -0.0, 0.1, 1e300], Decimal.isFinite x = true := by decide +kernel
  have hother : ∀ x ∈ [0.0 / 0.0, -1.0 / 0.0], Decimal.isFinite x = false := by decide
  simp only [List.forall_mem_cons] at hfinite hother
  have hpart : endless.map finitePart = tangled .absent .absent := by
    simp [endless, tangled, finitePart, Args.finitePart, Value.finitePart, Value.finiteParts,
      hfinite, hother]
  exact ⟨hdepth, hback, hpart ▸ listOfJson_listJson endless hdepth hback⟩

end Call

end VectorScene.Command
