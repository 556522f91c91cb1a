import Mathlib.Data.List.Perm.Basic
import VectorScene.Command.Call
import VectorScene.Proofs.Command.Arguments
import VectorScene.Proofs.Command.Depth
import VectorScene.Proofs.Command.Export

/-!
# Arguments by position

The expression that makes a call lists the arguments in the order of the schema, up to the last one
that is given, and holds the place of one that is not given with an absent value. Read by position
again, they are the arguments that were given.

## Main definitions

* `givenValues`: the values that stand in the expression of a call
* `Args.placed`: the arguments that are found at their positions

## Main results

* `Definition.parts_of_sound`: the parameters of a sound definition have distinct names
* `Args.ext_get?`: arguments are told apart by what is given
* `Args.positional_givenValues`: the arguments of a call through their positions
-/

namespace VectorScene.Command

/-! ### Parameters -/

namespace Definition

theorem nodup_of_parameterFault {before parameters : List Parameter}
    (h : parameterFault? before parameters = none) (hbefore : (before.map (·.name)).Nodup) :
    ((before ++ parameters).map (·.name)).Nodup := by
  induction parameters generalizing before with
  | nil => simpa using hbefore
  | cons p rest ih =>
    simp only [parameterFault?] at h
    split at h
    · cases h
    · split at h
      · cases h
      · rename_i hfresh
        split at h
        · cases h
        · have hp : p.name ∉ before.map (·.name) := by
            simpa [List.mem_map] using hfresh
          have hmore : ((before ++ [p]).map (·.name)).Nodup := by
            rw [List.map_append, List.map_singleton, List.nodup_append_comm]
            exact List.nodup_cons.2 ⟨hp, hbefore⟩
          simpa using ih h hmore

/-- **A sound definition** has a name and some parameters, no two of one name. -/
theorem parts_of_sound {d : Definition} (h : d.fault? = none) :
    Text.isIdentifier d.name = true ∧ d.parameters.length ≤ parameterLimit ∧
      (d.parameters.map (·.name)).Nodup := by
  unfold fault? at h
  split at h
  · cases h
  · rename_i hname
    split at h
    · cases h
    · rename_i hlimit
      exact ⟨by simpa using hname, Nat.le_of_not_lt hlimit, nodup_of_parameterFault h .nil⟩

end Definition

/-! ### Arguments -/

/-- The values of the arguments in the order of the schema, up to the last one that is given. -/
def givenValues (parameters : List Parameter) (args : Args) : List Value :=
  (usedParameters parameters args).map fun p => (args.get? p.name).getD .absent

theorem callChars_givenValues (name : String) (parameters : List Parameter) (args : Args) :
    callChars name parameters args =
      name.toList ++ '(' :: Value.spaced ((givenValues parameters args).map Value.literalChars)
        ++ [')'] := by
  rw [callChars, givenValues, List.map_map]
  rfl

/-- The parameters behind those that are used are not given. -/
theorem usedParameters_append (parameters : List Parameter) (args : Args) :
    ∃ unused, parameters = usedParameters parameters args ++ unused ∧
      ∀ p ∈ unused, args.get? p.name = none := by
  refine ⟨(parameters.reverse.takeWhile fun p => !args.contains p.name).reverse, ?_, ?_⟩
  · rw [usedParameters, ← List.reverse_append, List.takeWhile_append_dropWhile,
      List.reverse_reverse]
  · intro p hp
    have := List.mem_takeWhile_imp (List.mem_reverse.1 hp)
    simpa [Args.contains] using this

theorem length_givenValues_le (parameters : List Parameter) (args : Args) :
    (givenValues parameters args).length ≤ parameters.length := by
  obtain ⟨unused, hparameters, -⟩ := usedParameters_append parameters args
  rw [givenValues, List.length_map]
  conv_rhs => rw [hparameters]
  rw [List.length_append]
  exact Nat.le_add_right _ _

namespace Args

theorem mem_present {args : Args} {e : String × Value} :
    e ∈ args.present.entries ↔ args.get? e.1 = some e.2 := by
  rw [get?_eq_some_iff]
  simp [present]

/-- **Arguments** are told apart by what is given. -/
theorem ext_get? {args args' : Args} (h : ∀ name, args.get? name = args'.get? name) :
    args.present = args'.present := by
  have hirrefl : Std.Irrefl fun e f : String × Value => e.1 < f.1 :=
    ⟨fun e => String.lt_irrefl e.1⟩
  have hantisymm : Std.Antisymm fun e f : String × Value => e.1 < f.1 :=
    ⟨fun e f hlt hgt => absurd hgt (String.lt_asymm hlt)⟩
  have hentries : args.present.entries = args'.present.entries :=
    List.Pairwise.eq_of_mem_iff args.present.sorted args'.present.sorted fun e => by
      rw [mem_present, mem_present, h e.1]
  revert hentries
  cases args.present
  cases args'.present
  rintro rfl
  rfl

theorem present_of_given {args : Args} (h : ∀ e ∈ args.entries, e.2.isAbsent = false) :
    args.present = args := by
  obtain ⟨entries, hsorted⟩ := args
  have hkeep : entries.filter (!·.2.isAbsent) = entries :=
    List.filter_eq_self.2 fun e he => by rw [h e he]; rfl
  simp only [present, hkeep]

theorem zip_map_append {α β : Type} (f : α → β) (used unused : List α) :
    (used ++ unused).zip (used.map f) = used.map fun a => (a, f a) := by
  induction used with
  | nil => simp
  | cons a used ih => simp [ih]

/-- The entries that stand at their positions. -/
def placed (parameters : List Parameter) (args : Args) : List (String × Value) :=
  (((usedParameters parameters args).map fun p => (p, (args.get? p.name).getD .absent)).filter
    (!·.2.isAbsent)).map fun e => (e.1.name, e.2)

section Placed

variable {parameters : List Parameter} {args : Args}

theorem mem_placed (hdeclared : ∀ e ∈ args.entries, e.1 ∈ parameters.map (·.name))
    {e : String × Value} : e ∈ placed parameters args ↔ args.get? e.1 = some e.2 := by
  obtain ⟨unused, hparameters, hunused⟩ := usedParameters_append parameters args
  simp only [placed, List.mem_map, List.mem_filter]
  constructor
  · rintro ⟨-, ⟨⟨p, -, rfl⟩, hgiven⟩, rfl⟩
    -- an argument that is not given leaves an absent value, which is passed over
    cases hget : args.get? p.name with
    | none => simp [hget, Value.isAbsent] at hgiven
    | some v => rfl
  · intro hget
    obtain ⟨hmem, habsent⟩ := get?_eq_some_iff.1 hget
    obtain ⟨p, hp, hname⟩ := List.mem_map.1 (hdeclared _ hmem)
    have hused : p ∈ usedParameters parameters args := by
      rw [hparameters] at hp
      refine (List.mem_append.1 hp).resolve_right fun hp => ?_
      rw [← hname, hunused p hp] at hget
      cases hget
    refine ⟨_, ⟨⟨p, hused, rfl⟩, ?_⟩, ?_⟩
    · simpa [hname, hget] using habsent
    · simp [hname, hget]

theorem nodup_placed (hnodup : (parameters.map (·.name)).Nodup) (args : Args) :
    ((placed parameters args).map (·.1)).Nodup := by
  obtain ⟨unused, hparameters, -⟩ := usedParameters_append parameters args
  have hused : ((usedParameters parameters args).map (·.name)).Nodup := by
    refine List.Nodup.sublist ?_ hnodup
    conv_rhs => rw [hparameters]
    exact (List.sublist_append_left _ _).map _
  refine List.Nodup.sublist ?_ hused
  have := (List.filter_sublist (p := fun e : Parameter × Value => !e.2.isAbsent)
    (l := (usedParameters parameters args).map fun p =>
      (p, (args.get? p.name).getD .absent))).map fun e => e.1.name
  simpa [placed, Function.comp_def] using this

end Placed

/-- **The arguments of a call** through their positions, if all have been declared. -/
theorem positional_givenValues {parameters : List Parameter} {args : Args}
    (hnodup : (parameters.map (·.name)).Nodup)
    (hdeclared : ∀ e ∈ args.entries, e.1 ∈ parameters.map (·.name)) :
    positional parameters (givenValues parameters args) = args.present := by
  have hplaced : positional parameters (givenValues parameters args) =
      ofList (placed parameters args) := by
    obtain ⟨unused, hparameters, -⟩ := usedParameters_append parameters args
    unfold positional placed givenValues
    generalize usedParameters parameters args = used at hparameters ⊢
    rw [hparameters, zip_map_append]
  have hgiven : ∀ e ∈ (ofList (placed parameters args)).entries, e.2.isAbsent = false := by
    intro e he
    exact (get?_eq_some_iff.1 ((mem_placed hdeclared).1 (mem_ofList he))).2
  rw [hplaced, ← present_of_given hgiven]
  refine ext_get? fun name => Option.ext fun v => ?_
  have hnames := nodup_placed hnodup args
  rw [get?_ofList hnames, Option.filter_eq_some_iff, Scene.lookup_eq_some_iff_mem hnames,
    mem_placed hdeclared]
  refine and_iff_left_of_imp fun hget => ?_
  simp [(get?_eq_some_iff.1 hget).2]

end Args

end VectorScene.Command
