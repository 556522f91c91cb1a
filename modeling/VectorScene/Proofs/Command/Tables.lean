import Mathlib.Data.List.Nodup
import VectorScene.Command.Builtin
import VectorScene.Proofs.Command.Bindings
import VectorScene.Proofs.Command.Schemas

/-!
# Tables that edits make

A command table is edited by registering commands and taking commands away. A definition that is at
fault is not registered, and the table stays as it is. So in every table that edits make, each
command is found under its own name and has a definition that is in order.

## Main definitions

* `Definition.WellFormed`: a definition that is in order
* `Table.Edit`: an edit of a table
* `Table.edit`, `Table.editAll`: the table after it, and after several
* `Table.InOrder`: every command has a name of its own and a definition that is in order
* `Table.EditsApart`: an edit changes only what is found under one name

## Main results

* `Definition.fault?_eq_none_iff`: a definition is in order if there is no fault
* `Table.get?_erase`, `Table.get?_registered`, `Table.editsApart`: what an edit changes
* `Table.InOrder.editAll`: edits keep a table in order
* `Table.editAll_builtin`: the table of the built-in commands
-/

namespace VectorScene.Command

/-! ### Definitions -/

namespace Definition

/-- Two parameters, the first of which stands before the second. -/
def Precedes (p q : Parameter) : Prop :=
  p.name ≠ q.name ∧ (q.required = true → p.required = true)

/-- A definition that is in order: its name and those of its parameters are identifiers; it has not
too many parameters, no two of one name, and the required ones stand before the optional ones. -/
structure WellFormed (d : Definition) : Prop where
  name : Text.isIdentifier d.name = true
  few : d.parameters.length ≤ parameterLimit
  identifiers : ∀ p ∈ d.parameters, Text.isIdentifier p.name = true
  ordered : d.parameters.Pairwise Precedes

theorem WellFormed.nodup {d : Definition} (h : d.WellFormed) :
    (d.parameters.map (·.name)).Nodup :=
  List.pairwise_map.2 (h.ordered.imp And.left)

/-- No fault is found with one more parameter just if its name is an identifier and every parameter
before it precedes it. -/
theorem parameterFault?_cons_eq_none {before rest : List Parameter} {p : Parameter} :
    parameterFault? before (p :: rest) = none ↔
      Text.isIdentifier p.name = true ∧ (∀ q ∈ before, Precedes q p) ∧
        parameterFault? (before ++ [p]) rest = none := by
  have hprecedes : (∀ q ∈ before, Precedes q p) ↔
      before.any (·.name == p.name) = false ∧
        (p.required && before.any (!·.required)) = false := by
    cases hp : p.required <;> simp [Precedes, hp, forall_and]
  rw [hprecedes, parameterFault?]
  cases Text.isIdentifier p.name <;> cases before.any (·.name == p.name) <;>
    cases p.required && before.any (!·.required) <;> simp

/-- No fault is found with parameters that are in order behind others. -/
theorem parameterFault?_eq_none_iff {before parameters : List Parameter} :
    parameterFault? before parameters = none ↔
      (∀ p ∈ parameters, Text.isIdentifier p.name = true) ∧
        (∀ q ∈ before, ∀ p ∈ parameters, Precedes q p) ∧ parameters.Pairwise Precedes := by
  induction parameters generalizing before with
  | nil => simp [parameterFault?]
  | cons p rest ih =>
    rw [parameterFault?_cons_eq_none, ih, List.pairwise_cons]
    constructor
    · rintro ⟨hname, hbefore, hnames, hmore, hrest⟩
      refine ⟨List.forall_mem_cons.2 ⟨hname, hnames⟩, fun q hq => ?_, ?_, hrest⟩
      · exact List.forall_mem_cons.2 ⟨hbefore q hq, hmore q (List.mem_append_left _ hq)⟩
      · exact hmore p (List.mem_append_right _ List.mem_cons_self)
    · rintro ⟨hnames, hbefore, hp, hrest⟩
      obtain ⟨hname, hnames⟩ := List.forall_mem_cons.1 hnames
      refine ⟨hname, fun q hq => hbefore q hq p List.mem_cons_self, hnames, fun q hq => ?_, hrest⟩
      rcases List.mem_append.1 hq with hq | hq
      · exact fun r hr => hbefore q hq r (List.mem_cons_of_mem _ hr)
      · rw [List.mem_singleton.1 hq]
        exact hp

/-- **A definition is in order** if there is no fault. -/
theorem fault?_eq_none_iff {d : Definition} : d.fault? = none ↔ d.WellFormed := by
  unfold fault?
  split
  · rename_i hname
    refine ⟨nofun, fun h => ?_⟩
    simp [h.name] at hname
  · rename_i hname
    split
    · rename_i hmany
      exact ⟨nofun, fun h => absurd h.few (Nat.not_le.2 hmany)⟩
    · rename_i hfew
      rw [parameterFault?_eq_none_iff]
      refine ⟨fun h => ⟨by simpa using hname, Nat.not_lt.1 hfew, h.1, h.2.2⟩, fun h => ?_⟩
      exact ⟨h.identifiers, by simp, h.ordered⟩

end Definition

/-! ### Edits -/

namespace Table

/-- An edit of a table: a command is registered, or taken away. -/
inductive Edit where
  | register (c : VectorScene.Command)
  | remove (name : String)

/-- The table after an edit. A command that is rejected leaves it as it is. -/
def edit (t : Table) : Edit → Table
  | .register c =>
    match t.register c with
    | .ok t' => t'
    | .error _ => t
  | .remove name => (t.remove name).2

/-- The table after several edits. -/
def editAll (t : Table) (edits : List Edit) : Table := edits.foldl edit t

/-- Every command has a name of its own, and a definition that is in order. -/
structure InOrder (t : Table) : Prop where
  names : (t.commands.map (·.name)).Nodup
  definitions : ∀ c ∈ t.commands, c.definition.WellFormed

/-- An edit changes only what is found under one name. A command whose definition is not in order is
rejected, and the table is as it was; another one is found under its name afterwards. -/
structure EditsApart (t : Table) : Prop where
  rejected : ∀ c : VectorScene.Command, ¬c.definition.WellFormed →
    (∃ fault, t.register c = .error (.definition c.name fault)) ∧ t.edit (.register c) = t
  registered : ∀ c : VectorScene.Command, c.definition.WellFormed →
    t.register c = .ok (t.edit (.register c)) ∧
      ∀ other, (t.edit (.register c)).get? other = if other = c.name then some c else t.get? other
  removed : ∀ name other,
    (t.edit (.remove name)).get? other = if other = name then none else t.get? other

variable {t : Table} {c command : VectorScene.Command} {name : String}

theorem register_of_wellFormed (h : c.definition.WellFormed) :
    t.register c = .ok ⟨(t.erase c.name).commands ++ [c]⟩ := by
  unfold register
  rw [Definition.fault?_eq_none_iff.2 h]

theorem register_of_not_wellFormed (h : ¬c.definition.WellFormed) :
    ∃ fault, t.register c = .error (.definition c.name fault) := by
  rw [← Definition.fault?_eq_none_iff] at h
  obtain ⟨fault, hfault⟩ := Option.ne_none_iff_exists'.1 h
  refine ⟨fault, ?_⟩
  unfold register
  rw [hfault]

theorem edit_of_wellFormed (h : c.definition.WellFormed) :
    t.edit (.register c) = ⟨(t.erase c.name).commands ++ [c]⟩ := by
  unfold edit
  simp only [register_of_wellFormed h]

theorem edit_of_not_wellFormed (h : ¬c.definition.WellFormed) : t.edit (.register c) = t := by
  obtain ⟨fault, hfault⟩ := register_of_not_wellFormed (t := t) h
  unfold edit
  simp only [hfault]

/-- **Taking a command away** changes nothing under another name. -/
theorem get?_erase (t : Table) (name other : String) :
    (t.erase name).get? other = if other = name then none else t.get? other := by
  unfold get? erase
  rw [List.find?_filter]
  split
  · rename_i hname
    refine List.find?_eq_none.2 fun c _ => ?_
    simp [hname]
  · rename_i hname
    congr 1
    funext c
    by_cases hc : c.name = other
    · simp [hc, hname]
    · simp [hc]

/-- **A command that is registered** is found under its name, and nothing is changed under another
name. -/
theorem get?_registered (t : Table) (c : VectorScene.Command) (other : String) :
    Table.get? ⟨(t.erase c.name).commands ++ [c]⟩ other =
      if other = c.name then some c else t.get? other := by
  split
  · rename_i hname
    rw [hname]
    exact t.get?_added c
  · rename_i hname
    have herased := t.get?_erase c.name other
    rw [if_neg hname] at herased
    have hnone : [c].find? (·.name == other) = none := by simpa using Ne.symm hname
    rw [← herased, get?, List.find?_append, hnone, Option.or_none]
    rfl

/-- **Edits** change what is found under one name. -/
theorem editsApart (t : Table) : t.EditsApart where
  rejected c hc := ⟨register_of_not_wellFormed hc, edit_of_not_wellFormed hc⟩
  registered c hc := by
    rw [edit_of_wellFormed hc]
    exact ⟨register_of_wellFormed hc, t.get?_registered c⟩
  removed name := t.get?_erase name

/-- What is found under a name has that name. -/
theorem name_of_get? (h : t.get? name = some command) : command.name = name := by
  simpa using List.find?_some h

theorem InOrder.wellFormed (ht : t.InOrder) (h : t.get? name = some command) :
    command.definition.WellFormed :=
  ht.definitions command (List.mem_of_find?_eq_some h)

theorem InOrder.erase (ht : t.InOrder) (name : String) : (t.erase name).InOrder where
  names := ht.names.sublist (List.filter_sublist.map _)
  definitions c hc := ht.definitions c (List.mem_filter.1 hc).1

/-- **An edit** keeps a table in order. -/
theorem InOrder.edit (ht : t.InOrder) (change : Edit) : (t.edit change).InOrder := by
  cases change with
  | remove name => exact ht.erase name
  | register c =>
    by_cases hc : c.definition.WellFormed
    · rw [edit_of_wellFormed hc]
      have hrest := ht.erase c.name
      refine ⟨?_, ?_⟩
      · rw [List.map_append, List.map_singleton]
        refine List.nodup_append_comm.1 (List.nodup_cons.2 ⟨fun hmem => ?_, hrest.names⟩)
        obtain ⟨d, hd, hname⟩ := List.mem_map.1 hmem
        simpa [hname] using (List.mem_filter.1 hd).2
      · simp only [List.forall_mem_append, List.mem_singleton, forall_eq]
        exact ⟨hrest.definitions, hc⟩
    · rw [edit_of_not_wellFormed hc]
      exact ht

theorem InOrder.empty : Table.empty.InOrder := ⟨.nil, by simp [Table.empty]⟩

/-- **Edits** keep a table in order. -/
theorem InOrder.editAll (ht : t.InOrder) (edits : List Edit) : (t.editAll edits).InOrder := by
  induction edits generalizing t with
  | nil => exact ht
  | cons change rest ih => exact ih (ht.edit change)

/-- Commands of new names are registered one behind another. -/
theorem editAll_register {commands : List VectorScene.Command}
    (hnames : ((t.commands ++ commands).map (·.name)).Nodup)
    (hcommands : ∀ c ∈ commands, c.definition.WellFormed) :
    t.editAll (commands.map .register) = ⟨t.commands ++ commands⟩ := by
  induction commands generalizing t with
  | nil => simp [editAll]
  | cons c rest ih =>
    obtain ⟨hc, hrest⟩ := List.forall_mem_cons.1 hcommands
    -- no command is replaced
    have herase : t.erase c.name = t := by
      have hkeep : t.commands.filter (·.name != c.name) = t.commands := by
        refine List.filter_eq_self.2 fun d hd => ?_
        rw [List.map_append, List.nodup_append] at hnames
        simpa using hnames.2.2 d.name (List.mem_map_of_mem hd) c.name (by simp)
      rw [erase, hkeep]
    have hedit : t.edit (.register c) = ⟨t.commands ++ [c]⟩ := by
      rw [edit_of_wellFormed hc, herase]
    rw [List.map_cons, editAll, List.foldl_cons, ← editAll, hedit, ih (by simpa using hnames) hrest]
    simp

/-- **The built-in commands**, registered in an empty table, make the table of them. -/
theorem editAll_builtin :
    Table.empty.editAll (Table.builtin.commands.map .register) = Table.builtin := by
  have hnames : (Table.builtin.commands.map (·.name)).Nodup := by
    rw [Table.builtin, List.map_map]
    exact Builtin.all_names_nodup
  exact editAll_register hnames fun c hc =>
    Definition.fault?_eq_none_iff.1 (Table.builtin_sound c hc)

end Table

end VectorScene.Command
