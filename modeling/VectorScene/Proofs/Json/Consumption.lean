import Mathlib
import VectorScene.Json.Document
import VectorScene.Json.Pass

/-!
# What is read was in the text

A reader goes forward, and no string that it gives is longer than the text that it went past.

## Main definitions

* `Cursor.bytes`: how many bytes there are still to be read
* `Takes`: what is read and what is left fit into a number of bytes

## Main results

* `text_takes`: a string
* `array_takes`, `object_takes`: arrays and objects, if what is inside fits
* `passValue_takes`: a value that is passed over
-/

namespace VectorScene.Json

/-! ### Bytes to be read -/

theorem foldl_byteLength (chars : List Char) (n : Nat) :
    chars.foldl (fun n c => n + c.utf8Size) n = n + byteLength chars := by
  unfold byteLength
  induction chars generalizing n with
  | nil => simp
  | cons c rest ih => rw [List.foldl_cons, List.foldl_cons, ih, ih (0 + c.utf8Size)]; omega

@[simp] theorem byteLength_nil : byteLength [] = 0 := rfl

@[simp] theorem byteLength_cons (c : Char) (rest : List Char) :
    byteLength (c :: rest) = c.utf8Size + byteLength rest := by
  rw [byteLength, List.foldl_cons, foldl_byteLength]
  omega

theorem byteLength_ofList (chars : List Char) :
    (String.ofList chars).utf8ByteSize = byteLength chars := by
  induction chars with
  | nil => rfl
  | cons c rest ih => rw [byteLength_cons, ← ih]; simp [String.ofList_cons]

namespace Cursor

/-- How many bytes there are still to be read. -/
def bytes (c : Cursor) : Nat := byteLength c.rest

theorem bytes_next_of {c : Cursor} {char : Char} {rest : List Char} (h : c.rest = char :: rest) :
    char.utf8Size + c.next.bytes = c.bytes := by
  simp only [bytes, next, h, byteLength_cons]

theorem bytes_next (c : Cursor) : c.next.bytes ≤ c.bytes := by
  cases h : c.rest with
  | nil => simp only [next, h, Nat.le_refl]
  | cons char rest =>
    have := bytes_next_of h
    omega

theorem bytes_skip (c : Cursor) (n : Nat) :
    byteLength (c.rest.take n) + (c.skip n).bytes = c.bytes := by
  induction n generalizing c with
  | zero => simp [skip]
  | succ n ih =>
    rw [skip]
    cases h : c.rest with
    | nil =>
      have hnext : c.next = c := by simp only [next, h]
      have := ih c
      rw [hnext, List.take_nil]
      simpa [h] using this
    | cons char rest =>
      have hrest : c.next.rest = rest := by simp only [next, h]
      have hnext := bytes_next_of h
      have := ih c.next
      rw [hrest] at this
      simp only [List.take_succ_cons, byteLength_cons]
      omega

theorem bytes_blanks (p : Position) (chars : List Char) :
    (blanks p chars).bytes ≤ byteLength chars := by
  induction chars generalizing p with
  | nil => exact Nat.le_refl _
  | cons c rest ih =>
    rw [blanks, byteLength_cons]
    split
    · exact Nat.le_trans (ih _) (Nat.le_add_left _ _)
    · simp [bytes]

theorem bytes_trim (c : Cursor) : c.trim.bytes ≤ c.bytes := bytes_blanks _ _

end Cursor

/-! ### Steps -/

/-- What is read has a size, and together with what is left it fits into a number of bytes. -/
def Takes {α : Type} (size : α → Nat) (bytes : Nat) (x : Except Failure (α × Cursor)) : Prop :=
  ∀ a c, x = .ok (a, c) → size a + c.bytes ≤ bytes

/-- Nothing is asked of what is read. -/
abbrev Passes {α : Type} : Nat → Except Failure (α × Cursor) → Prop := Takes fun _ => 0

section Steps

variable {α β : Type} {size : α → Nat} {size' : β → Nat} {m n : Nat}

theorem takes_ok {a : α} {c : Cursor} (h : size a + c.bytes ≤ n) : Takes size n (.ok (a, c)) := by
  rintro _ _ ⟨⟩
  exact h

theorem takes_error (f : Failure) : Takes size n (.error f) := nofun

theorem takes_bind {x : Except Failure (α × Cursor)}
    {f : α × Cursor → Except Failure (β × Cursor)} (hx : Takes size m x)
    (hf : ∀ a c, size a + c.bytes ≤ m → Takes size' n (f (a, c))) : Takes size' n (x >>= f) := by
  cases x with
  | error cause => exact takes_error cause
  | ok r => exact hf r.1 r.2 (hx r.1 r.2 rfl)

theorem Takes.mono {x : Except Failure (α × Cursor)} (h : Takes size m x) (hle : m ≤ n) :
    Takes size n x := fun a c hx => Nat.le_trans (h a c hx) hle

theorem Takes.passes {x : Except Failure (α × Cursor)} (h : Takes size n x) : Passes n x := by
  intro a c hx
  have := h a c hx
  simp only
  omega

end Steps

/-! ### Words and strings -/

theorem word_takes (c : Cursor) (letters : List Char) : Passes c.bytes (word c letters) := by
  induction letters generalizing c with
  | nil => exact takes_ok (by simp)
  | cons letter letters ih =>
    rw [word]
    split
    · exact takes_error _
    · split
      · exact (ih c.next).mono c.bytes_next
      · exact takes_error _

/-- Four digits are four bytes. -/
theorem hexEscape_takes (c : Cursor) : Takes (fun _ => 4) c.bytes (hexEscape c) := by
  have hskip := c.bytes_skip 4
  unfold hexEscape
  split
  · exact takes_error _
  · split
    · exact takes_ok (by omega)
    · exact takes_error _

theorem escapePart_takes (char : Char) (c : Cursor) : Passes c.bytes (escapePart char c) := by
  unfold escapePart
  split
  · exact takes_error _
  · split
    · exact takes_ok (by simpa using c.bytes_next)
    · exact takes_error _

/-- No character is longer than its escape. -/
theorem numberEscape_takes (c : Cursor) : Takes Char.utf8Size c.bytes (numberEscape c) := by
  have hsize : ∀ d : Char, d.utf8Size ≤ 4 := Char.utf8Size_le_four
  refine takes_bind (hexEscape_takes c) fun n c' h => ?_
  have hsmall := hsize (Char.ofNat n)
  simp only
  split
  · exact takes_error _
  · split
    · exact takes_ok (by omega)
    · refine takes_bind (escapePart_takes _ c') fun _ c₁ h₁ => ?_
      refine takes_bind (escapePart_takes _ c₁) fun _ c₂ h₂ => ?_
      refine takes_bind (hexEscape_takes c₂) fun m c₃ h₃ => ?_
      have hpair := hsize (Char.ofNat ((n - 0xd800) * 0x400 + (m - 0xdc00) + 0x10000))
      simp only
      split
      · exact takes_error _
      · exact takes_ok (by omega)

/-- The escapes of one letter stand for characters of one byte. -/
theorem utf8Size_letterEscape {char decoded : Char} (h : letterEscape? char = some decoded) :
    decoded.utf8Size = 1 := by
  unfold letterEscape? at h
  split at h <;> first | (cases h; decide) | cases h

theorem escape_takes (c : Cursor) : Takes Char.utf8Size c.bytes (escape c) := by
  have hnext := c.bytes_next
  unfold escape
  split
  · exact takes_error _
  · rename_i char rest hrest
    have hpast := Cursor.bytes_next_of hrest
    have hpos := char.utf8Size_pos
    split
    · exact (numberEscape_takes c.next).mono hnext
    · split
      · rename_i decoded hdecoded
        have := utf8Size_letterEscape hdecoded
        exact takes_ok (by omega)
      · exact takes_error _

theorem textChars_takes (budget : Nat) (c : Cursor) :
    Takes byteLength c.bytes (textChars budget c) := by
  induction budget generalizing c with
  | zero => exact takes_error _
  | succ budget ih =>
    have hnext := c.bytes_next
    unfold textChars
    split
    · exact takes_error _
    · rename_i char rest hrest
      have hpast := Cursor.bytes_next_of hrest
      split
      · exact takes_ok (by simpa using hnext)
      · split
        · refine takes_bind (escape_takes c.next) fun decoded c₁ h₁ => ?_
          refine takes_bind (ih c₁) fun chars c₂ h₂ => takes_ok ?_
          rw [byteLength_cons]
          omega
        · split
          · exact takes_error _
          · refine takes_bind (ih c.next) fun chars c₁ h₁ => takes_ok ?_
            rw [byteLength_cons]
            omega

/-- **A string** is no longer than its text. -/
theorem text_takes (c : Cursor) : Takes String.utf8ByteSize c.bytes (text c) := by
  refine takes_bind (textChars_takes _ c) fun chars c₁ h => takes_ok ?_
  rw [byteLength_ofList]
  exact h

theorem string_takes (c : Cursor) : Takes String.utf8ByteSize c.bytes (string c) := by
  have htrim := c.bytes_trim
  have hnext := c.trim.bytes_next
  unfold string
  simp only
  split
  · exact (text_takes _).mono (by omega)
  · exact takes_error _

theorem passEscape_takes (c : Cursor) : Passes c.bytes (passEscape c) := by
  have hnext := c.bytes_next
  unfold passEscape
  split
  · exact takes_error _
  · split
    · exact takes_bind (hexEscape_takes c.next) fun n c₁ h => takes_ok (by omega)
    · split
      · exact takes_ok (by omega)
      · exact takes_error _

theorem passChars_takes (budget : Nat) (c : Cursor) : Passes c.bytes (passChars budget c) := by
  induction budget generalizing c with
  | zero => exact takes_error _
  | succ budget ih =>
    have hnext := c.bytes_next
    unfold passChars
    split
    · exact takes_error _
    · split
      · exact takes_ok (by omega)
      · split
        · exact takes_bind (passEscape_takes c.next) fun _ c₁ h => (ih c₁).mono (by omega)
        · split
          · exact takes_error _
          · exact (ih c.next).mono hnext

/-! ### Numbers -/

theorem bytes_digits (c : Cursor) : (digits c).2.bytes ≤ c.bytes := by
  have := c.bytes_skip (c.rest.takeWhile Decimal.isDigit).length
  unfold digits
  simp only
  omega

theorem wholeDigits_takes (cause : Cause) (c : Cursor) : Passes c.bytes (wholeDigits cause c) := by
  have hnext := c.bytes_next
  have hdigits := bytes_digits c
  unfold wholeDigits
  split
  · exact takes_error _
  · split
    · split
      · exact takes_error _
      · exact takes_ok (by omega)
    · split
      · exact takes_ok (a := (digits c).1) (c := (digits c).2) (by omega)
      · exact takes_error _

theorem placeDigits_takes (cause : Cause) (c : Cursor) : Passes c.bytes (placeDigits cause c) := by
  have hnext := c.bytes_next
  have hdigits := bytes_digits c.next
  unfold placeDigits
  split
  · simp only
    split
    · split <;> exact takes_error _
    · exact takes_ok (by omega)
  · exact takes_ok (by omega)

theorem exponentDigits_takes (cause : Cause) (c : Cursor) :
    Passes c.bytes (exponentDigits cause c) := by
  have hnext := c.bytes_next
  unfold exponentDigits
  split
  · have hsign : (if (c.next.rest.head? == some '-') = true ∨ c.next.rest.head? = some '+' then
        c.next.next else c.next).bytes ≤ c.bytes := by
      have := c.next.bytes_next
      split <;> omega
    simp only
    generalize (if (c.next.rest.head? == some '-') = true ∨ c.next.rest.head? = some '+' then
        c.next.next else c.next) = signed at hsign ⊢
    have hdigits := bytes_digits signed
    split
    · split <;> exact takes_error _
    · exact takes_ok (by omega)
  · exact takes_ok (by omega)

theorem numeral_takes (cause : Cause) (c : Cursor) : Passes c.bytes (numeral cause c) := by
  have hsign : (if c.rest.head? == some '-' then c.next else c).bytes ≤ c.bytes := by
    have := c.bytes_next
    split <;> omega
  refine takes_bind (wholeDigits_takes cause _) fun whole c₁ h₁ => ?_
  refine takes_bind (placeDigits_takes cause c₁) fun places c₂ h₂ => ?_
  refine takes_bind (exponentDigits_takes cause c₂) fun exponent c₃ h₃ => takes_ok ?_
  omega

theorem number_takes (c : Cursor) : Passes c.bytes (number c) := by
  refine takes_bind (numeral_takes _ c) fun n c₁ h => ?_
  simp only
  split
  · exact takes_ok h
  · split
    · exact takes_ok h
    · exact takes_error _
    · exact takes_error _

theorem passNumber_takes (c : Cursor) : Passes c.bytes (passNumber c) :=
  takes_bind (numeral_takes _ c) fun _ _ h => takes_ok h

/-! ### Containers -/

theorem close_bytes {kind : Container} {c c' : Cursor} (h : kind.close c = (none, c')) :
    c'.bytes ≤ c.bytes := by
  have htrim := c.bytes_trim
  have hnext := c.trim.bytes_next
  unfold Container.close at h
  simp only at h
  split at h
  · cases h
  · split at h
    · cases h
      omega
    · split at h
      · cases kind <;> cases h
      · cases h

section Containers

variable {α σ τ : Type} {n : Nat}

theorem finish_takes {size : α → Nat} (kind : Container)
    {body : Except Failure (α × Cursor)} (h : Takes size n body) :
    Takes size n (kind.finish body) := by
  unfold Container.finish
  split
  · rename_i a c
    have hbody := h a c rfl
    split
    · rename_i c' hclose
      have := close_bytes hclose
      exact takes_ok (by omega)
    · exact takes_error _
  · exact takes_error _

theorem nextItem_takes (kind : Container) (first : Bool) (c : Cursor) :
    Passes c.bytes (nextItem kind first c) := by
  have htrim := c.bytes_trim
  have hnext := c.trim.bytes_next
  have hagain := c.trim.next.bytes_trim
  unfold nextItem
  simp only
  split
  · exact takes_error _
  · split
    · exact takes_ok (by omega)
    · split
      · exact takes_ok (by omega)
      · split
        · split
          · exact takes_error _
          · split
            · exact takes_error _
            · exact takes_ok (by omega)
        · exact takes_error _

theorem items_takes {size : α → Nat} {item : Reader α}
    (hitem : ∀ c : Cursor, Takes size c.bytes (item c)) (budget : Nat) (first : Bool)
    (c : Cursor) : Takes (fun all => (all.map size).sum) c.bytes (items item budget first c) := by
  induction budget generalizing first c with
  | zero => exact takes_error _
  | succ budget ih =>
    unfold items
    refine takes_bind (nextItem_takes .array first c) fun more c₁ h₁ => ?_
    simp only
    split
    · refine takes_bind (hitem c₁) fun a c₂ h₂ => ?_
      refine takes_bind (ih false c₂) fun rest c₃ h₃ => takes_ok ?_
      simp only [List.map_cons, List.sum_cons]
      omega
    · exact takes_ok (by simpa using h₁)

/-- **The items of an array** fit into its text, behind the bracket. -/
theorem array_takes {size : α → Nat} {item : Reader α}
    (hitem : ∀ c : Cursor, Takes size c.bytes (item c)) (c : Cursor) :
    Takes (fun all => (all.map size).sum) c.next.bytes (array item c) :=
  finish_takes .array (items_takes hitem _ true c.next)

theorem key_takes (c : Cursor) : Passes c.bytes (key c) := by
  unfold key
  split
  · exact (text_takes c.next).passes.mono c.bytes_next
  · exact takes_error _

theorem colon_takes (c : Cursor) : Passes c.bytes (colon c) := by
  have htrim := c.bytes_trim
  have hnext := c.trim.bytes_next
  unfold colon
  simp only
  split
  · exact takes_error _
  · split
    · exact takes_ok (by omega)
    · exact takes_error _

theorem members_takes {size : σ → Nat} {step : σ → String → Reader σ}
    (hstep : ∀ gathered name (c : Cursor),
      Takes size (size gathered + c.bytes) (step gathered name c))
    (budget : Nat) (first : Bool) (gathered : σ) (c : Cursor) :
    Takes size (size gathered + c.bytes) (members step budget first gathered c) := by
  induction budget generalizing first gathered c with
  | zero => exact takes_error _
  | succ budget ih =>
    unfold members
    refine takes_bind (nextItem_takes .object first c) fun more c₁ h₁ => ?_
    simp only
    split
    · refine takes_bind (key_takes c₁) fun name c₂ h₂ => ?_
      refine takes_bind (hstep gathered name c₂) fun gathered' c₃ h₃ => ?_
      exact (ih false gathered' c₃).mono (by omega)
    · exact takes_ok (by omega)

/-- **What is gathered from an object** fits into its text. -/
theorem object_takes {size : σ → Nat} {size' : τ → Nat} {step : σ → String → Reader σ}
    (hstep : ∀ gathered name (c : Cursor),
      Takes size (size gathered + c.bytes) (step gathered name c))
    {start : σ} (hstart : size start = 0) {result : σ → Except Cause τ}
    (hresult : ∀ gathered t, result gathered = .ok t → size' t ≤ size gathered) (c : Cursor) :
    Takes size' c.bytes (object step start result c) := by
  refine finish_takes .object (takes_bind (members_takes hstep _ true start c.next) ?_)
  intro gathered c₁ h
  have hnext := c.bytes_next
  simp only
  split
  · rename_i t ht
    have := hresult gathered t ht
    exact takes_ok (by omega)
  · exact takes_error _

end Containers

/-! ### Values that are passed over -/

theorem passScalar_takes (char : Char) (c : Cursor) : Passes c.bytes (passScalar char c) := by
  have hnext := c.bytes_next
  unfold passScalar
  split
  · exact (word_takes _ _).mono hnext
  · split
    · exact (word_takes _ _).mono hnext
    · split
      · exact (word_takes _ _).mono hnext
      · split
        · exact passNumber_takes c
        · split
          · exact (passChars_takes _ _).mono hnext
          · exact takes_error _

theorem passName_takes (kind : Container) (c : Cursor) : Passes c.bytes (passName kind c) := by
  cases kind with
  | array => exact takes_ok (by omega)
  | object =>
    have htrim := c.bytes_trim
    have hnext := c.trim.bytes_next
    unfold passName
    simp only
    split
    · exact takes_error _
    · split
      · exact takes_error _
      · refine takes_bind (passChars_takes _ c.trim.next) fun _ c₁ h => ?_
        exact (colon_takes c₁).mono (by omega)

theorem passFrom_takes (budget : Nat) (expecting : Expecting) (stack : List Container)
    (c : Cursor) : Passes c.bytes (passFrom budget expecting stack c) := by
  induction budget generalizing expecting stack c with
  | zero => exact takes_error _
  | succ budget ih =>
    have htrim := c.bytes_trim
    have hnext := c.trim.bytes_next
    cases expecting with
    | value =>
      unfold passFrom
      simp only
      split
      · exact takes_error _
      · split
        · exact (ih _ _ _).mono (by omega)
        · split
          · exact (ih _ _ _).mono (by omega)
          · refine takes_bind (passScalar_takes _ c.trim) fun _ c₁ h => ?_
            exact (ih _ _ c₁).mono (by omega)
    | firstItem | anotherItem =>
      cases stack with
      | nil => exact takes_ok (by omega)
      | cons kind outer =>
        unfold passFrom
        simp only
        split
        · exact takes_error _
        · split
          · exact (ih _ _ _).mono (by omega)
          · split
            · refine takes_bind (passName_takes kind c.trim) fun _ c₁ h => ?_
              exact (ih _ _ c₁).mono (by omega)
            · split
              · refine takes_bind (passName_takes kind c.trim.next) fun _ c₁ h => ?_
                exact (ih _ _ c₁).mono (by omega)
              · exact takes_error _

/-- **A value that is passed over.** -/
theorem passValue_takes (c : Cursor) : Passes c.bytes (passValue c) := passFrom_takes _ _ _ c

end VectorScene.Json
