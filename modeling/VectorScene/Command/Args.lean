import VectorScene.Command.Error

/-!
# Arguments

The arguments of a command are values under names, sorted by name. A value that is absent counts as
an argument that is not given.

## Main definitions

* `Args`: values under distinct names, sorted
* `Args.insert`, `Args.ofList`: arguments added one after another; the last of a name wins
* `Args.get?`: an argument that is given
* `Args.validate`: the arguments that are given, checked against a schema
* `Args.optional`, `Args.require`: an argument read as one type
* `Args.positional`: the arguments of a call by position
-/

namespace VectorScene.Command

/-- Values under distinct names, sorted by name. -/
structure Args where
  entries : List (String × Value)
  sorted : entries.Pairwise (·.1 < ·.1)

namespace Args

/-- No arguments. -/
def empty : Args := ⟨[], .nil⟩

/-- Entries with one more, in its place, or with another value for its name. -/
def insertEntry (name : String) (value : Value) : List (String × Value) → List (String × Value)
  | [] => [(name, value)]
  | entry :: rest =>
    if name < entry.1 then (name, value) :: entry :: rest
    else if name = entry.1 then (name, value) :: rest
    else entry :: insertEntry name value rest

theorem mem_insertEntry {name : String} {value : Value} {entries : List (String × Value)}
    {entry : String × Value} (h : entry ∈ insertEntry name value entries) :
    entry = (name, value) ∨ entry ∈ entries := by
  induction entries with
  | nil => simpa [insertEntry] using h
  | cons first rest ih =>
    unfold insertEntry at h
    split at h
    · simpa using h
    · split at h
      · rcases List.mem_cons.1 h with h | h
        · exact .inl h
        · exact .inr (List.mem_cons_of_mem _ h)
      · rcases List.mem_cons.1 h with h | h
        · exact .inr (h ▸ List.mem_cons_self)
        · rcases ih h with h | h
          · exact .inl h
          · exact .inr (List.mem_cons_of_mem _ h)

theorem sorted_insertEntry (name : String) (value : Value) {entries : List (String × Value)}
    (h : entries.Pairwise (·.1 < ·.1)) :
    (insertEntry name value entries).Pairwise (·.1 < ·.1) := by
  induction entries with
  | nil => simp [insertEntry]
  | cons first rest ih =>
    obtain ⟨hfirst, hrest⟩ := List.pairwise_cons.1 h
    unfold insertEntry
    split
    · rename_i hlt
      refine List.pairwise_cons.2 ⟨fun e he => ?_, h⟩
      rcases List.mem_cons.1 he with rfl | he
      · exact hlt
      · exact String.lt_trans hlt (hfirst e he)
    · split
      · rename_i heq
        exact List.pairwise_cons.2 ⟨fun e he => heq ▸ hfirst e he, hrest⟩
      · rename_i hlt hne
        refine List.pairwise_cons.2 ⟨fun e he => ?_, ih hrest⟩
        rcases mem_insertEntry he with rfl | he
        · rcases String.le_total name first.1 with hle | hle
          · exact absurd (String.le_antisymm hle (String.not_lt.1 hlt)) hne
          · exact Decidable.byContradiction fun hnot =>
              hne (String.le_antisymm (String.not_lt.1 hnot) hle)
        · exact hfirst e he

/-- The arguments with another value for a name. -/
def insert (args : Args) (name : String) (value : Value) : Args :=
  ⟨insertEntry name value args.entries, sorted_insertEntry name value args.sorted⟩

/-- The arguments of a list; the last value of a name wins. -/
def ofList (entries : List (String × Value)) : Args :=
  entries.foldl (fun args e => args.insert e.1 e.2) empty

/-- The number of entries, those of absent values included. -/
def size (args : Args) : Nat := args.entries.length

/-- An argument that is given. -/
def get? (args : Args) (name : String) : Option Value :=
  (args.entries.lookup name).filter (!·.isAbsent)

/-- Whether an argument is given. -/
def contains (args : Args) (name : String) : Bool := (args.get? name).isSome

/-- The arguments that are given. -/
def present (args : Args) : Args :=
  ⟨args.entries.filter (!·.2.isAbsent), args.sorted.filter _⟩

/-- What is wrong with an argument, if anything is. -/
def fault? (args : Args) (p : Parameter) : Option Error :=
  match args.get? p.name with
  | none => if p.required then some (.missing p.name) else none
  | some v => if p.type.accepts v then none else some (.argument p.name (.wrongType p.type v))

/-- The arguments that are given, or the first fault in the order of the schema. Undeclared
arguments are kept. -/
def validate (args : Args) (parameters : List Parameter) : Except Error Args :=
  match parameters.findSome? args.fault? with
  | some e => .error e
  | none => .ok args.present

/-! ### Arguments read as one type -/

/-- An argument that may be left out, read as one type. -/
def typed {α : Type} (args : Args) (type : ArgType) (read : Value → Option α) (name : String) :
    Except Error (Option α) :=
  match args.get? name with
  | none => .ok none
  | some v =>
    match read v with
    | some a => .ok (some a)
    | none => .error (.argument name (.expected type))

/-- An argument that has to be given. -/
def needed {α : Type} (name : String) (result : Except Error (Option α)) : Except Error α :=
  match result with
  | .ok (some a) => .ok a
  | .ok none => .error (.missing name)
  | .error e => .error e

/-- A string that may be left out. -/
def string? (args : Args) (name : String) : Except Error (Option String) :=
  args.typed .string Value.toString? name

/-- A float that may be left out. -/
def float? (args : Args) (name : String) : Except Error (Option Float) :=
  args.typed .float Value.toFloat? name

/-- An integer that may be left out. -/
def int? (args : Args) (name : String) : Except Error (Option Int64) :=
  args.typed .int Value.toInt? name

/-- A switch that may be left out. -/
def bool? (args : Args) (name : String) : Except Error (Option Bool) :=
  args.typed .bool Value.toBool? name

/-- A point that may be left out. -/
def point? (args : Args) (name : String) : Except Error (Option Geometry.Point) :=
  args.typed .point Value.toPoint? name

/-- A transform that may be left out. -/
def transform? (args : Args) (name : String) : Except Error (Option Geometry.Transform) :=
  args.typed .transform Value.toTransform? name

/-- A string. -/
def string (args : Args) (name : String) : Except Error String := needed name (args.string? name)

/-- A float. -/
def float (args : Args) (name : String) : Except Error Float := needed name (args.float? name)

/-- An integer. -/
def int (args : Args) (name : String) : Except Error Int64 := needed name (args.int? name)

/-- A switch. -/
def bool (args : Args) (name : String) : Except Error Bool := needed name (args.bool? name)

/-- A point. -/
def point (args : Args) (name : String) : Except Error Geometry.Point :=
  needed name (args.point? name)

/-- A transform. -/
def transform (args : Args) (name : String) : Except Error Geometry.Transform :=
  needed name (args.transform? name)

/-! ### Text and positions -/

/-- The arguments as JSON text. -/
def jsonChars (args : Args) : List Char :=
  Json.objectChars (args.entries.map fun e => (e.1, e.2.jsonChars))

/-- The arguments as JSON text. -/
def json (args : Args) : String := String.ofList args.jsonChars

/-- The number of bytes of the longest string in the arguments. -/
def longest (args : Args) : Nat := Value.longestOf (args.entries.map (·.2))

/-- The arguments that values in the order of the schema stand for; absent ones are not given. -/
def positional (parameters : List Parameter) (values : List Value) : Args :=
  ofList (((parameters.zip values).filter (!·.2.isAbsent)).map fun e => (e.1.name, e.2))

end Args

end VectorScene.Command
