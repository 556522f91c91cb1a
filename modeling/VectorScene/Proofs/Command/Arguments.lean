import VectorScene.Command.Plan
import VectorScene.Proofs.Scene.Roster

/-!
# Reading arguments back

What is read from arguments does not depend on the absent values among them, and an argument that
was inserted can be read. So the arguments that are recorded of a call are checked and read like
those that the call was made with.

## Main results

* `Args.get?_present`, `Args.get?_ofList`: an argument that is given
* `Args.validate_present`: recorded arguments are checked like those of the call
-/

namespace VectorScene.Command.Args

open Scene

/-! ### What is given -/

theorem nodup_names (args : Args) : (args.entries.map (·.1)).Nodup := by
  refine List.Nodup.of_map id ?_
  rw [List.map_id]
  exact (List.pairwise_map.2 args.sorted).imp fun hlt heq => String.ne_of_lt hlt heq

/-- An argument is given if it is among the entries, with a value that is not absent. -/
theorem get?_eq_some_iff {args : Args} {name : String} {v : Value} :
    args.get? name = some v ↔ (name, v) ∈ args.entries ∧ v.isAbsent = false := by
  rw [get?, Option.filter_eq_some_iff, lookup_eq_some_iff_mem args.nodup_names]
  simp

@[simp] theorem get?_present (args : Args) (name : String) :
    args.present.get? name = args.get? name := by
  ext v
  rw [get?_eq_some_iff, get?_eq_some_iff, present]
  simp only [List.mem_filter]
  constructor
  · rintro ⟨⟨hmem, -⟩, hv⟩
    exact ⟨hmem, hv⟩
  · rintro ⟨hmem, hv⟩
    exact ⟨⟨hmem, by simp [hv]⟩, hv⟩

@[simp] theorem string_present (args : Args) (name : String) :
    args.present.string name = args.string name := by
  simp only [string, string?, typed, get?_present]

@[simp] theorem present_present (args : Args) : args.present.present = args.present := by
  simp [present, List.filter_filter]

theorem lookup_cons_eq (e : String × Value) (l : List (String × Value)) (name : String) :
    (e :: l).lookup name = if name = e.1 then some e.2 else l.lookup name := by
  rw [List.lookup_cons]
  by_cases hname : name = e.1
  · simp [hname]
  · simp only [beq_eq_false_iff_ne.2 hname, if_neg hname]

theorem lookup_insertEntry (name : String) (v : Value) (entries : List (String × Value))
    (name' : String) : (insertEntry name v entries).lookup name' =
      if name' = name then some v else entries.lookup name' := by
  induction entries with
  | nil => rw [insertEntry, lookup_cons_eq]
  | cons first rest ih =>
    unfold insertEntry
    split
    · rw [lookup_cons_eq]
    · split
      · rename_i heq
        -- the new value stands in the place of the old one
        rw [lookup_cons_eq, lookup_cons_eq, ← heq]
        split <;> rfl
      · rename_i hne
        rw [lookup_cons_eq, ih, lookup_cons_eq]
        by_cases hname : name' = name
        · rw [if_neg (hname ▸ hne), if_pos hname, if_pos hname]
        · rw [if_neg hname, if_neg hname]

/-- Arguments of a list in which no name occurs twice. -/
theorem get?_ofList {entries : List (String × Value)} (hnodup : (entries.map (·.1)).Nodup)
    (name : String) :
    (ofList entries).get? name = (entries.lookup name).filter (!·.isAbsent) := by
  have hfold : ∀ args : Args, (entries.foldl (fun args e => args.insert e.1 e.2) args).get? name =
      ((entries.lookup name).or (args.entries.lookup name)).filter (!·.isAbsent) := by
    induction entries with
    | nil => exact fun args => rfl
    | cons first rest ih =>
      intro args
      obtain ⟨hfirst, hrest⟩ := List.nodup_cons.1 hnodup
      rw [List.foldl_cons, ih hrest, insert, lookup_insertEntry, lookup_cons_eq]
      by_cases hname : name = first.1
      · -- no later entry has the name
        have hnone : rest.lookup name = none := by
          refine List.lookup_eq_none_iff.2 fun e he => ?_
          simp only [bne_iff_ne, hname]
          rintro heq
          exact hfirst (List.mem_map.2 ⟨e, he, heq.symm⟩)
        rw [hnone, if_pos hname, if_pos hname]
        rfl
      · rw [if_neg hname, if_neg hname]
  rw [ofList, hfold]
  cases entries.lookup name <;> rfl

/-! ### Checking -/

@[simp] theorem fault?_present (args : Args) (p : Parameter) :
    args.present.fault? p = args.fault? p := by
  simp only [fault?, get?_present]

theorem fault?_of_accepts {args : Args} {p : Parameter} {v : Value} (h : args.get? p.name = some v)
    (hv : p.type.accepts v) : args.fault? p = none := by
  simp only [fault?, h, if_pos hv]

/-- Arguments pass the check if each parameter is given a value of its type. -/
theorem validate_of_accepts {args : Args} {parameters : List Parameter}
    (h : ∀ p ∈ parameters, ∃ v, args.get? p.name = some v ∧ p.type.accepts v) :
    args.validate parameters = .ok args.present := by
  have hfault : ∀ p ∈ parameters, args.fault? p = none := by
    intro p hp
    obtain ⟨v, hget, hv⟩ := h p hp
    exact fault?_of_accepts hget hv
  rw [validate, List.findSome?_eq_none_iff.2 hfault]

/-- **Recorded arguments** are checked like those of the call. -/
theorem validate_present (args : Args) (parameters : List Parameter) :
    args.present.validate parameters = args.validate parameters := by
  have hfaults : args.present.fault? = args.fault? := funext fun p => args.fault?_present p
  simp only [validate, hfaults, present_present]

/-! ### Reading -/

variable {args : Args} {name : String}

theorem typed_of_get? {α : Type} {type : ArgType} {read : Value → Option α} {v : Value} {a : α}
    (h : args.get? name = some v) (ha : read v = some a) :
    args.typed type read name = .ok (some a) := by
  simp only [typed, h, ha]

theorem typed_of_none {α : Type} {type : ArgType} {read : Value → Option α}
    (h : args.get? name = none) : args.typed type read name = .ok none := by
  simp only [typed, h]

theorem string?_of_get? {text : String} (h : args.get? name = some (.string text)) :
    args.string? name = .ok (some text) := typed_of_get? h rfl

theorem string_of_get? {text : String} (h : args.get? name = some (.string text)) :
    args.string name = .ok text := by
  rw [string, string?_of_get? h, needed]

theorem bool?_of_get? {b : Bool} (h : args.get? name = some (.bool b)) :
    args.bool? name = .ok (some b) := typed_of_get? h rfl

theorem int?_of_get? {i : Int64} (h : args.get? name = some (.int i)) :
    args.int? name = .ok (some i) := typed_of_get? h rfl

theorem point?_of_get? {p : Geometry.Point} (h : args.get? name = some (.ofPoint p)) :
    args.point? name = .ok (some p) := typed_of_get? h rfl

theorem point_of_get? {p : Geometry.Point} (h : args.get? name = some (.ofPoint p)) :
    args.point name = .ok p := by
  rw [point, point?_of_get? h, needed]

theorem mode?_of_get? {mode : RenderMode} (h : args.get? name = some (.string mode.name)) :
    args.mode? name = .ok (some mode) := by
  simp only [mode?, string?_of_get? h, bind, Except.bind, RenderMode.ofName?_name]
  rfl

/-- A color of 24 bits is read from the integer for it. -/
theorem color?_of_get? {color : Color} (hcolor : color ≤ Color.limit)
    (h : args.get? "color" = some (.int (Int64.ofInt color.toNat))) :
    args.color? = .ok (some color) := by
  have hbound : color.toNat ≤ 16777215 := UInt32.le_iff_toNat_le.1 hcolor
  have hint : (Int64.ofInt color.toNat).toInt = color.toNat :=
    Int64.toInt_ofInt_of_le (by omega) (by omega)
  have hrange : 0 ≤ (color.toNat : Int) ∧ (color.toNat : Int) ≤ Color.limit.toNat :=
    ⟨by omega, Int.ofNat_le.2 hbound⟩
  simp only [color?, int?_of_get? h, bind, Except.bind, hint, if_pos hrange]
  rw [Int.toNat_natCast, UInt32.ofNat_toNat]
  rfl

end VectorScene.Command.Args
