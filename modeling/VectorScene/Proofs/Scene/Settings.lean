import VectorScene.Scene.Settings

/-!
# Settings, one at a time

A setting takes the documents of its type: a color those of the integers below `2 ^ 32`, a switch
the two constants. No other number is taken for a color, not even one whose fraction is zero. A
setting that was set reads as the document, and every other one as before.

Settings can also be set through the members of an object: all settings are written out, one member
is exchanged, and the object is read again, where a missing member would get its default and an
unknown one would be an error. That comes to the same.

## Main definitions

* `Setting.Takes`: the documents of the type of a setting
* `Settings.members`, `Settings.ofMembers`: settings as the members of an object
* `Settings.setMember`: one setting set through them

## Main results

* `Settings.set_iff`: what is accepted, and what it does
* `Settings.setMember_eq`: the way through the members
-/

namespace VectorScene.Scene

open Json (Document)

namespace Setting

/-- Whether a setting is a switch. The others are colors. -/
def isSwitch : Setting → Bool
  | showGrid | showAxisRings | showPerformanceStats => true
  | _ => false

/-- The documents of the type of a setting. -/
def Takes (setting : Setting) : Document → Prop
  | .bool _ => setting.isSwitch = true
  | .integer i => setting.isSwitch = false ∧ 0 ≤ i ∧ i < UInt32.size
  | _ => False

theorem mem_all (setting : Setting) : setting ∈ all := by
  cases setting <;> decide

/-- All settings, sorted by their names. -/
def sorted : List Setting := all.mergeSort fun x y => x.name ≤ y.name

theorem mem_sorted (setting : Setting) : setting ∈ sorted :=
  List.mem_mergeSort.2 setting.mem_all

theorem name_injective {x y : Setting} (h : x.name = y.name) : x = y := by
  have hsome := congrArg ofName? h
  rw [ofName?_name, ofName?_name] at hsome
  exact Option.some.inj hsome

theorem name_of_ofName? {name : String} {setting : Setting} (h : ofName? name = some setting) :
    setting.name = name := by
  simpa using List.find?_some h

end Setting

namespace Settings

variable {s s' : Settings} {x y : Setting} {d : Document}

/-! ### Documents of a type -/

theorem color_eq_ok {c : UInt32} : color d = .ok c ↔ d = ofColor c := by
  unfold color ofColor
  cases d with
  | integer i =>
    have hc : c.toNat < UInt32.size := c.toNat_lt
    have hbound : colorBound = UInt32.size := rfl
    simp only [Document.integer.injEq]
    split
    · rename_i hrange
      have hvalue : (UInt32.ofNat i.toNat).toNat = i.toNat :=
        UInt32.toNat_ofNat_of_lt' (show i.toNat < UInt32.size by omega)
      rw [Except.ok.injEq, ← UInt32.toNat_inj, hvalue]
      omega
    · simp only [reduceCtorEq, false_iff]
      omega
  | _ => simp

theorem switch_eq_ok {b : Bool} : switch d = .ok b ↔ d = .bool b := by
  cases d <;> simp [switch]

/-- A color is taken just if the document has its type. -/
theorem exists_color_iff (h : x.isSwitch = false) : (∃ c, color d = .ok c) ↔ x.Takes d := by
  simp only [color_eq_ok, ofColor]
  constructor
  · rintro ⟨c, rfl⟩
    have hc : c.toNat < UInt32.size := c.toNat_lt
    exact ⟨h, by omega, by omega⟩
  · intro htakes
    cases d with
    | integer i =>
      obtain ⟨-, hlow, hhigh⟩ := htakes
      have hvalue : (UInt32.ofNat i.toNat).toNat = i.toNat :=
        UInt32.toNat_ofNat_of_lt' (show i.toNat < UInt32.size by omega)
      exact ⟨.ofNat i.toNat, by rw [hvalue]; congr; omega⟩
    | bool b => exact absurd (h.symm.trans htakes) Bool.false_ne_true
    | _ => exact htakes.elim

/-- A switch is taken just if the document has its type. -/
theorem exists_switch_iff (h : x.isSwitch = true) : (∃ b, switch d = .ok b) ↔ x.Takes d := by
  simp only [switch_eq_ok]
  constructor
  · rintro ⟨b, rfl⟩
    exact h
  · intro htakes
    cases d with
    | bool b => exact ⟨b, rfl⟩
    | integer i => exact absurd (htakes.1.symm.trans h) Bool.false_ne_true
    | _ => exact htakes.elim

/-- What a setting holds has its type. -/
theorem takes_get (s : Settings) (x : Setting) : x.Takes (s.get x) := by
  cases x
  case showGrid | showAxisRings | showPerformanceStats => exact rfl
  all_goals exact (exists_color_iff rfl).1 ⟨_, color_eq_ok.2 rfl⟩

/-- Settings are told apart by what they hold. -/
theorem ext_get (h : ∀ x, s.get x = s'.get x) : s = s' := by
  have hcolor : ∀ {c c' : UInt32}, ofColor c = ofColor c' → c = c' := by
    intro c c' hc
    have hc : color (ofColor c) = .ok c' := color_eq_ok.2 hc
    rw [color_eq_ok.2 rfl] at hc
    exact Except.ok.inj hc
  have hswitch : ∀ {b b' : Bool}, Document.bool b = Document.bool b' → b = b' :=
    fun hb => Document.bool.inj hb
  obtain ⟨⟩ := s
  obtain ⟨⟩ := s'
  rw [mk.injEq]
  exact ⟨hcolor (h .backgroundColor), hswitch (h .showGrid), hcolor (h .gridColor),
    hcolor (h .centerLineGridColor), hswitch (h .showAxisRings), hcolor (h .xAxisRingColor),
    hcolor (h .yAxisRingColor), hcolor (h .zAxisRingColor), hswitch (h .showPerformanceStats)⟩

/-! ### Setting one -/

theorem map_eq_ok {ε α β : Type} {r : Except ε α} {f : α → β} {b : β} :
    (r >>= fun a => pure (f a)) = .ok b ↔ ∃ a, r = .ok a ∧ f a = b := by
  cases r <;> simp [bind, Except.bind, pure, Except.pure]

/-- **A setting that was set** reads as the document, and the others as before. -/
theorem get_of_set (h : s.set x d = .ok s') :
    s'.get x = d ∧ ∀ y, y ≠ x → s'.get y = s.get y := by
  cases x
  all_goals
    obtain ⟨value, hvalue, rfl⟩ := map_eq_ok.1 h
    first | obtain rfl := color_eq_ok.1 hvalue | obtain rfl := switch_eq_ok.1 hvalue
    refine ⟨rfl, fun y hy => ?_⟩
    cases y <;> first | rfl | exact absurd rfl hy

/-- **A document is accepted** just if it has the type of the setting. -/
theorem exists_set_iff : (∃ s', s.set x d = .ok s') ↔ x.Takes d := by
  cases x
  case showGrid | showAxisRings | showPerformanceStats =>
    refine Iff.trans ?_ (exists_switch_iff rfl)
    simp only [set, map_eq_ok]
    exact ⟨fun ⟨_, b, hb, _⟩ => ⟨b, hb⟩, fun ⟨b, hb⟩ => ⟨_, b, hb, rfl⟩⟩
  all_goals
    refine Iff.trans ?_ (exists_color_iff rfl)
    simp only [set, map_eq_ok]
    exact ⟨fun ⟨_, c, hc, _⟩ => ⟨c, hc⟩, fun ⟨c, hc⟩ => ⟨_, c, hc, rfl⟩⟩

/-- **Setting one setting.** -/
theorem set_iff : s.set x d = .ok s' ↔
    x.Takes d ∧ s'.get x = d ∧ ∀ y, y ≠ x → s'.get y = s.get y := by
  constructor
  · intro h
    exact ⟨exists_set_iff.1 ⟨s', h⟩, get_of_set h⟩
  · rintro ⟨htakes, hx, hothers⟩
    obtain ⟨t, ht⟩ : ∃ t, s.set x d = .ok t := exists_set_iff.2 htakes
    obtain ⟨htx, htothers⟩ := get_of_set ht
    have hsame : t = s' := ext_get fun y => by
      by_cases hy : y = x
      · rw [hy, htx, hx]
      · rw [htothers y hy, hothers y hy]
    rw [ht, hsame]

/-- What is wrong with a document does not hang on the other settings. -/
theorem set_eq_error {cause : Json.Cause} (h : s.set x d = .error cause) (s' : Settings) :
    s'.set x d = .error cause := by
  have hbind : ∀ {α : Type} {r : Except Json.Cause α} {f f' : α → Settings},
      (r >>= fun a => pure (f a)) = Except.error cause →
        (r >>= fun a => pure (f' a)) = Except.error cause := by
    intro α r f f' hr
    cases r with
    | ok a => cases hr
    | error fault => exact hr
  cases x <;> exact hbind h

theorem exists_set_eq_error (h : ¬x.Takes d) : ∃ cause, s.set x d = .error cause := by
  cases hset : s.set x d with
  | ok s' => exact absurd (exists_set_iff.1 ⟨s', hset⟩) h
  | error cause => exact ⟨cause, rfl⟩

/-! ### Setting one by its name -/

theorem getNamed_name (s : Settings) (x : Setting) : s.getNamed x.name = .ok (s.get x) := by
  rw [getNamed, Setting.ofName?_name]

theorem setNamed_name (s : Settings) (x : Setting) (d : Document) :
    s.setNamed x.name d = (s.set x d).mapError (.wrongSetting x.name) := by
  rw [setNamed, Setting.ofName?_name]

theorem ofName?_eq_none {name : String} (h : ∀ x : Setting, x.name ≠ name) :
    Setting.ofName? name = none := by
  cases hx : Setting.ofName? name with
  | none => rfl
  | some x => exact absurd (Setting.name_of_ofName? hx) (h x)

/-! ### Setting one member of an object -/

/-- The members of the object that settings are written as, sorted by their names. -/
def members (s : Settings) : List (String × Document) :=
  Setting.sorted.map fun x => (x.name, s.get x)

/-- The settings with another value for the one of a member. -/
def addMember (s : Settings) (m : String × Document) : Except Json.Cause Settings :=
  match Setting.ofName? m.1 with
  | some x => s.set x m.2
  | none => .error (.unknownField m.1 (Setting.all.map (·.name)))

/-- The settings of an object. Those that do not stand there have their defaults. -/
def ofMembers (ms : List (String × Document)) : Except Json.Cause Settings := ms.foldlM addMember {}

/-- Settings written out as an object, with another value for one member, and read again. -/
def setMember (s : Settings) (name : String) (d : Document) : Except Error Settings :=
  if name ∈ s.members.map (·.1) then
    (ofMembers (s.members.map fun m => if m.1 = name then (name, d) else m)).mapError
      (.wrongSetting name)
  else .error (.unknownSetting name)

/-- The members stand in the order in which an object keeps them. -/
theorem members_names (s : Settings) : s.members.map (·.1) = Setting.sortedNames := by
  rw [members, List.map_map, Setting.sorted, Setting.sortedNames]
  exact List.map_mergeSort fun _ _ _ _ => rfl

theorem addMember_name (s : Settings) (x : Setting) (d : Document) :
    s.addMember (x.name, d) = s.set x d := by
  simp only [addMember, Setting.ofName?_name]

/-- Members of the right types are read, whatever the order. -/
theorem foldlM_addMember {xs : List Setting} {f : Setting → Document}
    (h : ∀ x ∈ xs, x.Takes (f x)) (s : Settings) :
    ∃ s', (xs.map fun x => (x.name, f x)).foldlM addMember s = .ok s' ∧
      ∀ y, s'.get y = if y ∈ xs then f y else s.get y := by
  induction xs generalizing s with
  | nil => exact ⟨s, rfl, fun y => by simp⟩
  | cons x rest ih =>
    obtain ⟨hx, hrest⟩ := List.forall_mem_cons.1 h
    obtain ⟨s₁, hset⟩ : ∃ s₁, s.set x (f x) = .ok s₁ := exists_set_iff.2 hx
    obtain ⟨s₂, hfold, hget⟩ := ih hrest s₁
    obtain ⟨hsame, hothers⟩ := get_of_set hset
    refine ⟨s₂, ?_, fun y => ?_⟩
    · rw [List.map_cons, List.foldlM_cons, addMember_name, hset]
      exact hfold
    · rw [hget]
      by_cases hy : y ∈ rest
      · rw [if_pos hy, if_pos (List.mem_cons_of_mem x hy)]
      · rw [if_neg hy]
        by_cases hyx : y = x
        · rw [hyx, hsame, if_pos List.mem_cons_self]
        · rw [hothers y hyx, if_neg (by simp [hyx, hy])]

/-- A member of the wrong type is what is wrong with an object, if it is the only one. -/
theorem foldlM_addMember_error {xs : List Setting} (hx : x ∈ xs) {f : Setting → Document}
    (hothers : ∀ y, y ≠ x → y.Takes (f y)) {cause : Json.Cause}
    (hcause : s.set x (f x) = .error cause) (s' : Settings) :
    (xs.map fun y => (y.name, f y)).foldlM addMember s' = .error cause := by
  obtain ⟨front, back, rfl, hfront⟩ := List.eq_append_cons_of_mem hx
  obtain ⟨t, ht, -⟩ := foldlM_addMember (f := f)
    (fun y hy => hothers y fun hyx => hfront (hyx ▸ hy)) s'
  rw [List.map_append, List.map_cons, List.foldlM_append, ht]
  show (addMember t (x.name, f x) >>= _) = _
  rw [addMember_name, set_eq_error hcause]
  rfl

/-- **The way through the members** of an object does what setting does. -/
theorem setMember_eq (s : Settings) (name : String) (d : Document) :
    s.setMember name d = s.setNamed name d := by
  have hnames : name ∈ s.members.map (·.1) ↔ ∃ x : Setting, x.name = name := by
    simp [members, Setting.mem_sorted]
  unfold setMember
  by_cases hname : ∃ x : Setting, x.name = name
  · obtain ⟨x, rfl⟩ := hname
    rw [if_pos (hnames.2 ⟨x, rfl⟩), setNamed_name]
    -- the members after the exchange
    let f (y : Setting) : Document := if y = x then d else s.get y
    have hx : f x = d := if_pos rfl
    have hothers : ∀ y, y ≠ x → f y = s.get y := fun y hy => if_neg hy
    have hexchange : (s.members.map fun m => if m.1 = x.name then (x.name, d) else m) =
        Setting.sorted.map fun y => (y.name, f y) := by
      rw [members, List.map_map]
      refine List.map_congr_left fun y _ => ?_
      by_cases hy : y = x
      · simp [hy, hx]
      · have hne : y.name ≠ x.name := fun h => hy (Setting.name_injective h)
        simp [hne, hothers y hy]
    have hothersTake : ∀ y, y ≠ x → y.Takes (f y) := fun y hy => hothers y hy ▸ s.takes_get y
    congr 1
    rw [hexchange, ofMembers]
    by_cases htakes : x.Takes d
    · have hall : ∀ y ∈ Setting.sorted, y.Takes (f y) := fun y _ =>
        if hy : y = x then by rw [hy, hx]; exact htakes else hothersTake y hy
      obtain ⟨s', hfold, hget⟩ := foldlM_addMember hall {}
      have hread : ∀ y, s'.get y = f y := fun y => (hget y).trans (if_pos (Setting.mem_sorted y))
      rw [hfold]
      exact (set_iff.2 ⟨htakes, (hread x).trans hx,
        fun y hy => (hread y).trans (hothers y hy)⟩).symm
    · obtain ⟨cause, hcause⟩ := exists_set_eq_error (s := s) htakes
      rw [foldlM_addMember_error (s := s) (Setting.mem_sorted x) hothersTake (hx ▸ hcause), hcause]
  · rw [if_neg (fun h => hname (hnames.1 h)), setNamed,
      ofName?_eq_none fun x hx => hname ⟨x, hx⟩]

end Settings

end VectorScene.Scene
