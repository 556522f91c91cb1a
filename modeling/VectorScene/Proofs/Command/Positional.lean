import Mathlib.Data.List.DropRight
import VectorScene.Command.Engine
import VectorScene.Proofs.Command.Positions
import VectorScene.Proofs.Command.Tables

/-!
# Values by position

A script calls a command with values by position. Those that are not absent become arguments under
the names of the parameters at their positions. The expression that makes the call, which is written
of the arguments, lists the values again; only the absent ones at the end are gone.

## Main definitions

* `pairs`: the values that are given, with the names of their positions
* `Args.StandFor`: arguments that stand for values by position

## Main results

* `positional_perm`, `positional_get?`: the arguments that values become
* `givenValues_positional`: the values that stand in the expression of the call
* `callPositional_corresponds`: calls by position in every table that edits make
-/

namespace VectorScene.Command

/-! ### Arguments -/

/-- The values that are given, with the names of the parameters at their positions. -/
def pairs (parameters : List Parameter) (values : List Value) : List (String × Value) :=
  ((parameters.map (·.name)).zip values).filter (!·.2.isAbsent)

variable {parameters : List Parameter} {values : List Value}

theorem positional_eq_ofList (parameters : List Parameter) (values : List Value) :
    Args.positional parameters values = Args.ofList (pairs parameters values) := by
  rw [Args.positional, pairs, List.zip_map_left, List.filter_map]
  rfl

theorem nodup_zip {names : List String} (hnodup : names.Nodup) (values : List Value) :
    ((names.zip values).map (·.1)).Nodup := by
  induction names generalizing values with
  | nil => exact .nil
  | cons name rest ih =>
    cases values with
    | nil => exact .nil
    | cons v more =>
      obtain ⟨hname, hrest⟩ := List.nodup_cons.1 hnodup
      refine List.nodup_cons.2 ⟨fun hmem => ?_, ih hrest more⟩
      obtain ⟨e, he, rfl⟩ := List.mem_map.1 hmem
      exact hname (List.of_mem_zip he).1

/-- The names of the pairs differ. -/
theorem nodup_pairs (hnodup : (parameters.map (·.name)).Nodup) (values : List Value) :
    ((pairs parameters values).map (·.1)).Nodup :=
  (nodup_zip hnodup values).sublist (List.filter_sublist.map _)

/-- **The values that are given** are in the pairs, in their order. -/
theorem map_snd_pairs (hfew : values.length ≤ parameters.length) :
    (pairs parameters values).map (·.2) = values.filter (!·.isAbsent) := by
  have hsnd : ((parameters.map (·.name)).zip values).map (·.2) = values :=
    List.map_snd_zip (by simpa using hfew)
  conv_rhs => rw [← hsnd, List.filter_map]
  rfl

theorem mem_declared {e : String × Value} (he : e ∈ pairs parameters values) :
    e.1 ∈ parameters.map (·.name) :=
  (List.of_mem_zip (List.mem_filter.1 he).1).1

/-- **An argument is given** if it is one of the pairs. -/
theorem positional_get?_eq_some_iff (hnodup : (parameters.map (·.name)).Nodup) {name : String}
    {v : Value} : (Args.positional parameters values).get? name = some v ↔
      (name, v) ∈ pairs parameters values := by
  have hnames := nodup_pairs hnodup values
  rw [positional_eq_ofList, Args.get?_ofList hnames, Option.filter_eq_some_iff,
    Scene.lookup_eq_some_iff_mem hnames]
  refine and_iff_left_of_imp fun he => ?_
  simpa using (List.mem_filter.1 he).2

/-- **The arguments** are the pairs. -/
theorem positional_perm (hnodup : (parameters.map (·.name)).Nodup) (values : List Value) :
    (Args.positional parameters values).entries.Perm (pairs parameters values) := by
  have hentries : (Args.positional parameters values).entries.Nodup :=
    (Args.positional parameters values).nodup_names.of_map
  refine (List.perm_ext_iff_of_nodup hentries (nodup_pairs hnodup values).of_map).2 fun e => ?_
  rw [← positional_get?_eq_some_iff hnodup, Args.get?_eq_some_iff]
  refine (and_iff_left_of_imp fun he => ?_).symm
  -- absent values do not become arguments
  rw [positional_eq_ofList] at he
  simpa using (List.mem_filter.1 (Args.mem_ofList he)).2

/-- The argument at a position is the value there, unless it is absent. -/
theorem positional_get? (hnodup : (parameters.map (·.name)).Nodup) {i : Nat} {p : Parameter}
    (hp : parameters[i]? = some p) :
    ((Args.positional parameters values).get? p.name).getD .absent = values[i]?.getD .absent := by
  have hname : (parameters.map (·.name))[i]? = some p.name := by rw [List.getElem?_map, hp]; rfl
  cases hget : (Args.positional parameters values).get? p.name with
  | some v =>
    obtain ⟨hmem, -⟩ := List.mem_filter.1 ((positional_get?_eq_some_iff hnodup).1 hget)
    obtain ⟨j, hj⟩ := List.mem_iff_getElem?.1 hmem
    obtain ⟨hj, hv⟩ := List.getElem?_zip_eq_some.1 hj
    -- the name stands at one position only
    obtain rfl : i = j := by
      obtain ⟨hi', hi⟩ := List.getElem?_eq_some_iff.1 hname
      obtain ⟨hj', hj⟩ := List.getElem?_eq_some_iff.1 hj
      exact hnodup.getElem_inj_iff.1 (hi.trans hj.symm)
    rw [hv]
  | none =>
    cases hv : values[i]? with
    | none => rfl
    | some v =>
      cases habsent : v.isAbsent with
      | true =>
        cases v <;> first | rfl | cases habsent
      | false =>
        have hmem : (p.name, v) ∈ pairs parameters values :=
          List.mem_filter.2 ⟨List.mem_of_getElem? (List.getElem?_zip_eq_some.2 ⟨hname, hv⟩),
            by simpa using habsent⟩
        rw [← positional_get?_eq_some_iff hnodup, hget] at hmem
        cases hmem

/-! ### Expressions -/

/-- An argument is given if its value is not absent. -/
theorem Args.contains_eq (args : Args) (name : String) :
    args.contains name = !((args.get? name).getD .absent).isAbsent := by
  unfold contains
  cases hget : args.get? name with
  | none => rfl
  | some v => simp [(get?_eq_some_iff.1 hget).2]

/-- **The values in the expression** of the call are those of the call without the absent ones at
the end. -/
theorem givenValues_positional (hnodup : (parameters.map (·.name)).Nodup)
    (hfew : values.length ≤ parameters.length) :
    givenValues parameters (Args.positional parameters values) =
      values.rdropWhile Value.isAbsent := by
  let f (p : Parameter) : Value := ((Args.positional parameters values).get? p.name).getD .absent
  have hall : parameters.map f =
      values ++ List.replicate (parameters.length - values.length) .absent := by
    have hlength : (parameters.map f).length =
        (values ++ List.replicate (parameters.length - values.length) Value.absent).length := by
      simp only [List.length_map, List.length_append, List.length_replicate]
      omega
    refine List.ext_getElem hlength fun i hi hi' => ?_
    rw [List.length_map] at hi
    rw [List.getElem_map, List.getElem_append]
    have hvalue : f parameters[i] = values[i]?.getD .absent :=
      positional_get? hnodup (List.getElem?_eq_getElem hi)
    rw [hvalue]
    split
    · rename_i hlt
      rw [List.getElem?_eq_getElem hlt, Option.getD_some]
    · rename_i hge
      rw [List.getElem?_eq_none (Nat.not_lt.1 hge), List.getElem_replicate, Option.getD_none]
  have hused : givenValues parameters (Args.positional parameters values) =
      (parameters.map f).rdropWhile Value.isAbsent := by
    have hgiven : (fun p : Parameter => !(Args.positional parameters values).contains p.name) =
        Value.isAbsent ∘ f := by
      funext p
      rw [Args.contains_eq, Bool.not_not]
      rfl
    rw [givenValues, usedParameters, hgiven, List.rdropWhile, ← List.map_reverse,
      List.dropWhile_map, List.map_reverse]
  rw [hused, hall, List.rdropWhile, List.reverse_append, List.dropWhile_append_of_pos,
    List.rdropWhile]
  intro v hv
  rw [List.reverse_replicate] at hv
  rw [List.eq_of_mem_replicate hv]
  rfl

/-- Arguments stand for values by position. They are the values that are not absent, each under the
name of the parameter at its position, and no two under one name. In the expression of a call stand
the literals of the values, without the absent ones at the end. -/
structure Args.StandFor (parameters : List Parameter) (values : List Value) (args : Args) :
    Prop where
  given : (args.entries.map (·.2)).Perm (values.filter (!·.isAbsent))
  names : (args.entries.map (·.1)).Nodup
  declared : ∀ e ∈ args.entries, e.1 ∈ parameters.map (·.name)
  placed : ∀ (i : Nat) (p : Parameter), parameters[i]? = some p →
    (args.get? p.name).getD .absent = values[i]?.getD .absent
  text : ∀ name, callText name parameters args = String.ofList (name.toList ++
    '(' :: Value.spaced ((values.rdropWhile Value.isAbsent).map Value.literalChars) ++ [')'])

/-- **Values by position** become arguments that stand for them. -/
theorem positional_standFor (hnodup : (parameters.map (·.name)).Nodup)
    (hfew : values.length ≤ parameters.length) :
    (Args.positional parameters values).StandFor parameters values where
  given := map_snd_pairs hfew ▸ (positional_perm hnodup values).map (·.2)
  names := (Args.positional parameters values).nodup_names
  declared e he := mem_declared ((positional_perm hnodup values).mem_iff.1 he)
  placed i p hp := positional_get? hnodup hp
  text name := by rw [callText, callChars_givenValues, givenValues_positional hnodup hfew]

/-! ### Calls -/

/-- **Calls by position and by name.** Take the table after any edits of the empty one; the table of
the built-in commands is such a table. An edit changes only what is found under one name. A call of
a command with more values than it has parameters gives an error, and nothing else happens. With no
more values it is the call with the arguments that stand for them. -/
theorem callPositional_corresponds (edits : List Table.Edit) :
    let t := Table.empty.editAll edits
    t.EditsApart ∧ ∀ name command, t.get? name = some command →
      command.name = name ∧ command.definition.WellFormed ∧
        ∀ (values : List Value) (e : Engine),
          let parameters := command.definition.parameters
          let args := Args.positional parameters values
          (parameters.length < values.length →
            ∃ text, e.callPositional t name values = (.error (.evaluation text), e)) ∧
          (values.length ≤ parameters.length →
            e.callPositional t name values = e.execute t ⟨name, args⟩ ∧
              args.StandFor parameters values) := by
  intro t
  have ht : t.InOrder := Table.InOrder.empty.editAll edits
  refine ⟨t.editsApart, fun name command hget => ?_⟩
  have hcommand := ht.wellFormed hget
  refine ⟨Table.name_of_get? hget, hcommand, fun values e => ⟨fun hmany => ?_, fun hfew => ?_⟩⟩
  · simp only [Engine.callPositional, hget, if_pos hmany]
    exact ⟨_, rfl⟩
  · refine ⟨?_, positional_standFor hcommand.nodup hfew⟩
    simp only [Engine.callPositional, hget, if_neg (Nat.not_lt.2 hfew)]

section Gap

/-- A command with three parameters, which does nothing. -/
def gapCommand : VectorScene.Command :=
  ⟨{ name := "gap", parameters := [required "first" .any, Command.optional "second" .any,
    Command.optional "third" .any] }, fun _ => .done (.ok .absent)⟩

/-- A command with two parameters of one name. -/
def twinCommand : VectorScene.Command :=
  ⟨{ name := "gap", parameters := [required "first" .any, required "first" .any] },
    fun _ => .done (.ok .absent)⟩

/-- A command is registered, one that is not in order is rejected, and a name that no command has is
taken away. -/
def gapEdits : List Table.Edit := [.register gapCommand, .register twinCommand, .remove "twin"]

/-- An absent value holds the place of the second argument. -/
theorem callPositional_gap :
    let e : Engine := { draws := ⟨fun _ => 0, 0⟩, log := { files := {} } }
    let t := Table.empty.editAll gapEdits
    let args := Args.positional gapCommand.definition.parameters [.int 1, .absent, .string "x"]
    t.get? "gap" = some gapCommand ∧
      e.callPositional t "gap" [.int 1, .absent, .string "x"] = e.execute t ⟨"gap", args⟩ ∧
      args.entries.map (·.1) = ["first", "third"] ∧
      callText "gap" gapCommand.definition.parameters args = "gap(1, (), \"x\")" ∧
      ∃ text, e.callPositional t "gap" [.int 1, .int 2, .int 3, .absent] =
        (.error (.evaluation text), e) := by
  intro e t args
  have hget : t.get? "gap" = some gapCommand := rfl
  obtain ⟨-, -, hcalls⟩ := (callPositional_corresponds gapEdits).2 "gap" gapCommand hget
  obtain ⟨hcall, hstands⟩ := (hcalls [.int 1, .absent, .string "x"] e).2 (by decide)
  refine ⟨hget, hcall, rfl, (hstands.text "gap").trans ?_, ?_⟩
  · decide
  · exact (hcalls [.int 1, .int 2, .int 3, .absent] e).1 (by decide)

end Gap

end VectorScene.Command
