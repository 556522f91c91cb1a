import VectorScene.Proofs.Decimal.Shapes
import VectorScene.Proofs.Text.Trimming
import VectorScene.Scene.Vector
import VectorScene.Scene.Registry

/-!
# Shortcuts

A shortcut counts back from the entity created last. It is `$`, or `$-` and a number in decimal
digits, which may have one plus before it and blanks around it. It stands for a name just if it does
not count past the first one, whatever is stored. Any other text behind `$` stands for nothing.

The number has any number of digits. A machine reads it into a word of 64 bits and counts down from
the number of names, and gives up when one of its steps would leave the range of a word. It finds
the same names, since there are never more of them than a word counts.

## Main definitions

* `Shortcut.CountsBack`: what may stand behind `$`, and how far it counts back
* `Shortcut.index?`: the place of a name, computed in words

## Main results

* `Shortcut.offset?_eq_some_iff`: the shortcuts that are read
* `Shortcut.index?_eq_some_iff`: the place that is computed is in range
* `Registry.shortcut_resolves`: the name that a shortcut stands for
-/

namespace VectorScene.Scene

open Decimal (AreDigits digitValue isDigit natOfDecimal)

/-! ### The form of shortcuts -/

theorem isBlank_of_isDigit {c : Char} (h : isDigit c) : Text.isBlank c = false := by
  have hlow : 48 ≤ c.toNat ∧ c.toNat ≤ 57 := by
    simpa [isDigit, Char.le_def, UInt32.le_iff_toNat_le] using h
  simp only [Text.isBlank, Bool.or_eq_false_iff, Bool.and_eq_false_iff, decide_eq_false_iff_not,
    beq_eq_false_iff_ne]
  omega

namespace Shortcut

/-- The digits of a number that one plus may precede. -/
inductive Numbers : List Char → List Char → Prop
  | plain {digits : List Char} : AreDigits digits → digits ≠ [] → Numbers digits digits
  | plus {digits : List Char} : AreDigits digits → digits ≠ [] → Numbers ('+' :: digits) digits

/-- What may stand behind the `$` of a shortcut, and how far it counts back: nothing, or a minus and
a number with blanks around it. -/
inductive CountsBack : List Char → Nat → Prop
  | last : CountsBack [] 0
  | before {front text back digits : List Char} : (∀ c ∈ front, Text.isBlank c = true) →
    Numbers text digits → (∀ c ∈ back, Text.isBlank c = true) →
    CountsBack ('-' :: (front ++ text ++ back)) (natOfDecimal digits)

/-- A text without a plus at its start. -/
def unsigned (text : List Char) : List Char := if text.head? = some '+' then text.tail else text

theorem Numbers.not_blank {text digits : List Char} (h : Numbers text digits) :
    ∀ c ∈ text, Text.isBlank c = false := by
  cases h with
  | plain hdigits _ => exact fun c hc => isBlank_of_isDigit (hdigits c hc)
  | plus hdigits _ =>
    refine List.forall_mem_cons.2 ⟨by decide, fun c hc => isBlank_of_isDigit (hdigits c hc)⟩

/-- A number is read off its digits, without the plus. -/
theorem numbers_iff {text digits : List Char} :
    Numbers text digits ↔ digits = unsigned text ∧ digits ≠ [] ∧ AreDigits digits := by
  unfold unsigned
  constructor
  · rintro (⟨hdigits, hne⟩ | ⟨hdigits, hne⟩)
    · have hplus : text.head? ≠ some '+' := fun h =>
        absurd (hdigits _ (List.mem_of_mem_head? h)) (by decide)
      exact ⟨(if_neg hplus).symm, hne, hdigits⟩
    · exact ⟨by simp, hne, hdigits⟩
  · rintro ⟨heq, hne, hdigits⟩
    split at heq
    · rename_i hplus
      obtain ⟨rest, rfl⟩ := List.head?_eq_some_iff.1 hplus
      obtain rfl : digits = rest := heq
      exact .plus hdigits hne
    · obtain rfl := heq
      exact .plain hdigits hne

theorem offset?_minus {rest : List Char} {n : Nat} : Registry.offset? ('-' :: rest) = some n ↔
    ∃ digits, Numbers (Text.trim rest) digits ∧ natOfDecimal digits = n := by
  have hoffset : Registry.offset? ('-' :: rest) =
      if (unsigned (Text.trim rest)).isEmpty || !(unsigned (Text.trim rest)).all isDigit then none
      else some (natOfDecimal (unsigned (Text.trim rest))) := rfl
  simp only [hoffset, numbers_iff]
  split
  · rename_i hread
    simp only [Bool.or_eq_true, List.isEmpty_iff, Bool.not_eq_true', List.all_eq_false] at hread
    simp only [reduceCtorEq, false_iff]
    rintro ⟨-, ⟨rfl, hne, hdigits⟩, -⟩
    rcases hread with hnil | ⟨c, hc, hdigit⟩
    · exact hne hnil
    · exact hdigit (hdigits c hc)
  · rename_i hread
    simp only [Bool.or_eq_true, List.isEmpty_iff, Bool.not_eq_true', not_or, Bool.not_eq_false,
      List.all_eq_true] at hread
    rw [Option.some.injEq]
    constructor
    · rintro rfl
      exact ⟨_, ⟨rfl, hread⟩, rfl⟩
    · rintro ⟨-, ⟨rfl, -⟩, rfl⟩
      rfl

/-- **The shortcuts that are read** are those of the form. -/
theorem offset?_eq_some_iff {rest : List Char} {n : Nat} :
    Registry.offset? rest = some n ↔ CountsBack rest n := by
  constructor
  · intro h
    cases rest with
    | nil =>
      cases h
      exact .last
    | cons c rest =>
      obtain rfl : c = '-' := by
        by_contra hminus
        simp [Registry.offset?, hminus] at h
      obtain ⟨digits, hdigits, rfl⟩ := offset?_minus.1 h
      obtain ⟨front, back, hrest, hfront, hback⟩ := Text.exists_padding rest
      rw [hrest]
      exact .before hfront hdigits hback
  · rintro (_ | ⟨hfront, hdigits, hback⟩)
    · rfl
    · refine offset?_minus.2 ⟨_, ?_, rfl⟩
      rw [Text.trim_padded hfront hdigits.not_blank hback]
      exact hdigits

/-- The digits of a number count back by it. -/
theorem countsBack_toDigits (n : Nat) : CountsBack ('-' :: Nat.toDigits 10 n) n := by
  have htext : Numbers (Nat.toDigits 10 n) (Nat.toDigits 10 n) :=
    .plain (Decimal.areDigits_toDigits n) Nat.toDigits_ne_nil
  simpa [Decimal.natOfDecimal_toDigits] using @CountsBack.before [] _ [] _ nofun htext nofun

/-! ### Counting in words -/

/-- The difference of words, unless it is negative. -/
def sub? (a b : UInt64) : Option UInt64 := if b ≤ a then some (a - b) else none

/-- The sum of words, unless it is no word. -/
def add? (a b : UInt64) : Option UInt64 :=
  if a.toNat + b.toNat < UInt64.size then some (a + b) else none

/-- The product of words, unless it is no word. -/
def mul? (a b : UInt64) : Option UInt64 :=
  if a.toNat * b.toNat < UInt64.size then some (a * b) else none

/-- The word that a row of digits stands for behind those that have been read. -/
def wordFrom? (n : UInt64) : List Char → Option UInt64
  | [] => some n
  | c :: rest =>
    if isDigit c then do
      let tens ← mul? n 10
      wordFrom? (← add? tens (.ofNat (digitValue c))) rest
    else none

/-- The word that a number with at most one plus before it stands for. -/
def word? (text : List Char) : Option UInt64 :=
  if (unsigned text).isEmpty then none else wordFrom? 0 (unsigned text)

/-- The place that a shortcut stands for, given how many places there are and what follows its
`$`. -/
def index? (length : UInt64) (rest : List Char) : Option UInt64 := do
  let last ← sub? length 1
  match rest with
  | [] => return last
  | '-' :: rest => sub? last (← word? (Text.trim rest))
  | _ => none

section Words

variable {a b c : UInt64}

theorem toNat_lt_size (a : UInt64) : a.toNat < UInt64.size := a.toNat_lt

theorem sub?_eq_some_iff : sub? a b = some c ↔ c.toNat + b.toNat = a.toNat := by
  unfold sub?
  split
  · rename_i hle
    have hsub := UInt64.toNat_sub_of_le a b hle
    rw [UInt64.le_iff_toNat_le] at hle
    rw [Option.some.injEq, ← UInt64.toNat_inj]
    omega
  · rename_i hle
    rw [UInt64.le_iff_toNat_le] at hle
    simp only [reduceCtorEq, false_iff]
    omega

theorem add?_eq_some_iff : add? a b = some c ↔ c.toNat = a.toNat + b.toNat := by
  have hc := toNat_lt_size c
  unfold add?
  split
  · rename_i hlt
    rw [Option.some.injEq, ← UInt64.toNat_inj, UInt64.toNat_add, Nat.mod_eq_of_lt hlt]
    exact eq_comm
  · simp only [reduceCtorEq, false_iff]
    omega

theorem mul?_eq_some_iff : mul? a b = some c ↔ c.toNat = a.toNat * b.toNat := by
  have hc := toNat_lt_size c
  unfold mul?
  split
  · rename_i hlt
    rw [Option.some.injEq, ← UInt64.toNat_inj, UInt64.toNat_mul, Nat.mod_eq_of_lt hlt]
    exact eq_comm
  · simp only [reduceCtorEq, false_iff]
    omega

end Words

theorem digitValue_lt {c : Char} (h : isDigit c = true) : digitValue c < 10 := by
  have hrange : 48 ≤ c.toNat ∧ c.toNat ≤ 57 := by
    simpa [isDigit, Char.le_def, UInt32.le_iff_toNat_le] using h
  have hzero : '0'.toNat = 48 := rfl
  rw [digitValue, hzero]
  omega

/-- More digits make no smaller number. -/
theorem le_foldl_digits (digits : List Char) (n : Nat) :
    n ≤ digits.foldl (fun n c => n * 10 + digitValue c) n := by
  induction digits generalizing n with
  | nil => exact Nat.le_refl n
  | cons c rest ih => exact Nat.le_trans (by omega) (ih (n * 10 + digitValue c))

/-- **Digits are read into a word** just if their number is one. No step on the way goes beyond the
number that is read in the end. -/
theorem wordFrom?_eq_some_iff {n w : UInt64} {digits : List Char} :
    wordFrom? n digits = some w ↔ AreDigits digits ∧
      w.toNat = digits.foldl (fun n c => n * 10 + digitValue c) n.toNat := by
  induction digits generalizing n with
  | nil => simp [wordFrom?, ← UInt64.toNat_inj, eq_comm]
  | cons c rest ih =>
    rw [wordFrom?, Decimal.areDigits_cons]
    split
    · rename_i hdigit
      have hvalue : (UInt64.ofNat (digitValue c)).toNat = digitValue c :=
        UInt64.toNat_ofNat_of_lt' (Nat.lt_trans (digitValue_lt hdigit) (by decide))
      have hten : (10 : UInt64).toNat = 10 := rfl
      simp only [Option.bind_eq_bind, Option.bind_eq_some_iff, mul?_eq_some_iff, add?_eq_some_iff,
        ih, hvalue, hten, hdigit, true_and, List.foldl_cons]
      constructor
      · rintro ⟨tens, htens, next, hnext, hrest, hw⟩
        rw [hnext, htens] at hw
        exact ⟨hrest, hw⟩
      · rintro ⟨hrest, hw⟩
        have hle := le_foldl_digits rest (n.toNat * 10 + digitValue c)
        have hbound := toNat_lt_size w
        have htens : (UInt64.ofNat (n.toNat * 10)).toNat = n.toNat * 10 :=
          UInt64.toNat_ofNat_of_lt' (by omega)
        have hnext : (UInt64.ofNat (n.toNat * 10 + digitValue c)).toNat =
            n.toNat * 10 + digitValue c := UInt64.toNat_ofNat_of_lt' (by omega)
        exact ⟨_, htens, _, by rw [hnext, htens], hrest, by rw [hnext]; exact hw⟩
    · rename_i hdigit
      simp [hdigit]

theorem word?_eq_some_iff {text : List Char} {w : UInt64} :
    word? text = some w ↔ ∃ digits, Numbers text digits ∧ w.toNat = natOfDecimal digits := by
  simp only [numbers_iff, word?]
  constructor
  · intro h
    split at h
    · cases h
    · rename_i hne
      obtain ⟨hdigits, hw⟩ := wordFrom?_eq_some_iff.1 h
      exact ⟨_, ⟨rfl, by simpa using hne, hdigits⟩, hw⟩
  · rintro ⟨digits, ⟨rfl, hne, hdigits⟩, hw⟩
    rw [if_neg (by simpa using hne)]
    exact wordFrom?_eq_some_iff.2 ⟨hdigits, hw⟩

/-- **The place that is computed** is the one that the shortcut counts back to, and there is none
just if it counts past the first. -/
theorem index?_eq_some_iff {length i : UInt64} {rest : List Char} :
    index? length rest = some i ↔
      ∃ n, CountsBack rest n ∧ i.toNat + n + 1 = length.toNat := by
  have hone : (1 : UInt64).toNat = 1 := rfl
  simp only [index?, Option.bind_eq_bind, Option.bind_eq_some_iff, sub?_eq_some_iff, hone]
  constructor
  · rintro ⟨last, hlast, h⟩
    split at h
    · cases h
      exact ⟨0, .last, hlast⟩
    · rename_i rest
      obtain ⟨offset, hoffset, hi⟩ := Option.bind_eq_some_iff.1 h
      obtain ⟨digits, hdigits, hvalue⟩ := word?_eq_some_iff.1 hoffset
      obtain ⟨front, back, hrest, hfront, hback⟩ := Text.exists_padding rest
      rw [sub?_eq_some_iff] at hi
      refine ⟨natOfDecimal digits, ?_, by omega⟩
      rw [hrest]
      exact .before hfront hdigits hback
    · cases h
  · rintro ⟨n, hcounts, hi⟩
    have hbound := toNat_lt_size length
    have hlast : (UInt64.ofNat (i.toNat + n)).toNat = i.toNat + n :=
      UInt64.toNat_ofNat_of_lt' (by omega)
    refine ⟨.ofNat (i.toNat + n), by omega, ?_⟩
    cases hcounts with
    | last =>
      exact congrArg some (UInt64.toNat_inj.1 hlast)
    | @before front text back digits hfront htext hback =>
      have hword : (UInt64.ofNat (natOfDecimal digits)).toNat = natOfDecimal digits :=
        UInt64.toNat_ofNat_of_lt' (by omega)
      refine Option.bind_eq_some_iff.2 ⟨.ofNat (natOfDecimal digits), ?_, ?_⟩
      · rw [Text.trim_padded hfront htext.not_blank hback]
        exact word?_eq_some_iff.2 ⟨digits, htext, hword⟩
      · rw [sub?_eq_some_iff, hlast, hword]

end Shortcut

/-! ### Names -/

namespace Registry

open Shortcut

variable {α : Type}

theorem resolve_eq_bind (r : Registry α) (rest : List Char) :
    r.resolve (String.ofList ('$' :: rest)) = (offset? rest).bind fun n => r.names.reverse[n]? := by
  simp [resolve, names]

/-- A shortcut stands for the name that it counts back to. -/
theorem resolve_eq_some_iff {r : Registry α} {rest : List Char} {name : String} :
    r.resolve (String.ofList ('$' :: rest)) = some name ↔
      ∃ n, CountsBack rest n ∧ n < r.names.length ∧
        r.names[r.names.length - 1 - n]? = some name := by
  rw [resolve_eq_bind, Option.bind_eq_some_iff]
  simp only [offset?_eq_some_iff]
  constructor
  · rintro ⟨n, hn, hname⟩
    have hlt : n < r.names.length := by simpa using (List.getElem?_eq_some_iff.1 hname).1
    rw [List.getElem?_reverse hlt] at hname
    exact ⟨n, hn, hlt, hname⟩
  · rintro ⟨n, hn, hlt, hname⟩
    rw [← List.getElem?_reverse hlt] at hname
    exact ⟨n, hn, hname⟩

/-- A shortcut stands for no name if it counts past the first one, or does not count at all. -/
theorem resolve_eq_none_iff {r : Registry α} {rest : List Char} :
    r.resolve (String.ofList ('$' :: rest)) = none ↔
      ∀ n, CountsBack rest n → r.names.length ≤ n := by
  constructor
  · intro hnone n hn
    by_contra hlt
    have hin : r.names.length - 1 - n < r.names.length := by omega
    have hsome := resolve_eq_some_iff.2 ⟨n, hn, by omega, List.getElem?_eq_getElem hin⟩
    rw [hnone] at hsome
    cases hsome
  · intro h
    refine Option.eq_none_iff_forall_ne_some.2 fun name hname => ?_
    obtain ⟨n, hn, hlt, -⟩ := resolve_eq_some_iff.1 hname
    exact absurd (h n hn) (by omega)

section Words

variable {r : Registry α} (hsize : r.names.length < UInt64.size) {rest : List Char}

include hsize

theorem index?_lt {i : UInt64} (h : index? (.ofNat r.names.length) rest = some i) :
    i.toNat < r.names.length := by
  obtain ⟨n, -, hplace⟩ := index?_eq_some_iff.1 h
  rw [UInt64.toNat_ofNat_of_lt' hsize] at hplace
  omega

/-- The place that is computed in words is that of the name. -/
theorem resolve_eq_index :
    r.resolve (String.ofList ('$' :: rest)) =
      (index? (.ofNat r.names.length) rest).bind fun i => r.names[i.toNat]? := by
  refine Option.ext fun name => ?_
  rw [resolve_eq_some_iff, Option.bind_eq_some_iff]
  simp only [index?_eq_some_iff, UInt64.toNat_ofNat_of_lt' hsize]
  constructor
  · rintro ⟨n, hn, hlt, hname⟩
    have hplace : (UInt64.ofNat (r.names.length - 1 - n)).toNat = r.names.length - 1 - n :=
      UInt64.toNat_ofNat_of_lt' (by omega)
    refine ⟨_, ⟨n, hn, ?_⟩, by rw [hplace, hname]⟩
    rw [hplace]
    omega
  · rintro ⟨i, ⟨n, hn, hplace⟩, hname⟩
    have hi : i.toNat = r.names.length - 1 - n := by omega
    exact ⟨n, hn, by omega, by rw [← hi, hname]⟩

end Words

/-- **Shortcuts.** In every registry, and whatever it stores, a text that starts with `$` stands for
a name just if what follows counts back no further than to the first name, and then for the name it
counts back to. Read and counted in words it leads to the same name, at a place that there is. -/
theorem shortcut_resolves (r : Registry α) (rest : List Char) :
    (∀ name, r.resolve (String.ofList ('$' :: rest)) = some name ↔
      ∃ n, CountsBack rest n ∧ n < r.names.length ∧
        r.names[r.names.length - 1 - n]? = some name) ∧
    (r.resolve (String.ofList ('$' :: rest)) = none ↔
      ∀ n, CountsBack rest n → r.names.length ≤ n) ∧
    (r.names.length < UInt64.size →
      (∀ i, index? (.ofNat r.names.length) rest = some i → i.toNat < r.names.length) ∧
      r.resolve (String.ofList ('$' :: rest)) =
        (index? (.ofNat r.names.length) rest).bind fun i => r.names[i.toNat]?) :=
  ⟨fun _ => resolve_eq_some_iff, resolve_eq_none_iff,
    fun hsize => ⟨fun _ => index?_lt hsize, resolve_eq_index hsize⟩⟩

/-- A registry in which the name of one vector looks like a shortcut. -/
def twoVectors : Registry Vector where
  stored := [("b", .build "b" .zero .axisY 0xff {}), ("$x", .build "$x" .zero .axisX 0xff {})]
  order := ["$x", "b"]

/-- A number may have a zero and a plus before it, and a wide blank. The name that looks like a
shortcut is no key. -/
theorem shortcut_resolves_padded :
    twoVectors.names.length < UInt64.size ∧
      twoVectors.resolve "$-\u2003+01 " = some "$x" ∧
      twoVectors.resolve "$x" = none ∧
      twoVectors.resolve "$-\u2003+01 " =
        (index? 2 "-\u2003+01 ".toList).bind fun i => twoVectors.names[i.toNat]? := by
  have hsize : twoVectors.names.length < UInt64.size := by decide
  have hcounts : CountsBack "-\u2003+01 ".toList 1 :=
    @CountsBack.before ['\u2003'] ['+', '0', '1'] [' '] ['0', '1'] (by simp [Text.isBlank])
      (.plus (show ∀ c ∈ ['0', '1'], isDigit c = true by simp [isDigit]) (by decide))
      (by simp [Text.isBlank])
  have hother : ∀ n, CountsBack ['x'] n → twoVectors.names.length ≤ n := by
    intro n h
    cases h
  exact ⟨hsize, ((shortcut_resolves twoVectors _).1 "$x").2 ⟨1, hcounts, by decide, rfl⟩,
    (shortcut_resolves twoVectors ['x']).2.1.2 hother,
    ((shortcut_resolves twoVectors _).2.2 hsize).2⟩

end Registry

end VectorScene.Scene
