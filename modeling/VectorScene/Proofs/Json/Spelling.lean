import Mathlib.Data.List.Forall2
import VectorScene.Json.Document
import VectorScene.Proofs.Decimal.Shapes

/-!
# What is written is read back

The writers of JSON text and its readers meet: a text that a writer makes is read as what it was
made from, and the reader stops right behind it.

## Main definitions

* `Reaches`: what was read, and what is left
* `Ends`: a text that does not go on with a number
* `Spells`: a text that a reader reads as a value, whatever follows
* `Numeral.chars`: the text of a numeral
* `Gathers`: members that a step gathers one after another

## Main results

* `text_encode`: strings
* `numeral_chars`, `number_integerChars`, `number_floatChars`: numbers
* `array_arrayChars`, `object_objectChars`: arrays and objects
* `documentWith_number`, `document_array`: documents
* `Reader.run_ofList`: a whole text
-/

namespace VectorScene.Json

open Decimal (AreDigits IsWhole pointed isDigit)

/-! ### Cursors -/

namespace Cursor

@[simp] theorem next_cons (p : Position) (c : Char) (rest : List Char) :
    (⟨p, c :: rest⟩ : Cursor).next = ⟨p.after c, rest⟩ := rfl

theorem trim_cons {c : Char} (h : isBlank c = false) (p : Position) (rest : List Char) :
    (⟨p, c :: rest⟩ : Cursor).trim = ⟨p, c :: rest⟩ := by
  simp [trim, blanks, h]

theorem exists_skip (p : Position) (row rest : List Char) :
    ∃ q, (⟨p, row ++ rest⟩ : Cursor).skip row.length = ⟨q, rest⟩ := by
  induction row generalizing p with
  | nil => exact ⟨p, rfl⟩
  | cons c row ih => exact ih (p.after c)

end Cursor

/-! ### What was read -/

section Reaches

variable {α β : Type}

/-- This was read, and the rest is left. -/
def Reaches (x : Except Failure (α × Cursor)) (a : α) (rest : List Char) : Prop :=
  ∃ q, x = .ok (a, ⟨q, rest⟩)

theorem reaches_ok (a : α) (p : Position) (rest : List Char) :
    Reaches (.ok (a, ⟨p, rest⟩)) a rest := ⟨p, rfl⟩

theorem reaches_bind {x : Except Failure (α × Cursor)}
    {f : α × Cursor → Except Failure (β × Cursor)} {a : α} {b : β} {rest rest' : List Char}
    (hx : Reaches x a rest) (hf : ∀ p, Reaches (f (a, ⟨p, rest⟩)) b rest') :
    Reaches (x >>= f) b rest' := by
  obtain ⟨q, rfl⟩ := hx
  exact hf q

/-- A text that does not go on with a number. -/
def Ends (rest : List Char) : Prop :=
  ∀ c ∈ rest.head?, isDigit c = false ∧ c ≠ '.' ∧ c ≠ 'e' ∧ c ≠ 'E'

theorem ends_nil : Ends [] := nofun

theorem ends_cons {c : Char} (hc : isDigit c = false ∧ c ≠ '.' ∧ c ≠ 'e' ∧ c ≠ 'E')
    (rest : List Char) : Ends (c :: rest) := by
  rintro _ ⟨⟩
  exact hc

theorem ends_comma (rest : List Char) : Ends (',' :: rest) := ends_cons (by decide) rest

theorem ends_closer (kind : Container) (rest : List Char) : Ends (kind.closer :: rest) :=
  ends_cons (by cases kind <;> decide) rest

/-- A text that neither a blank nor the end of an item starts. -/
def Solid (text : List Char) : Prop :=
  ∃ c more, text = c :: more ∧ isBlank c = false ∧ c ≠ ',' ∧ c ≠ ']' ∧ c ≠ '\x7d'

/-- The reader reads the text as the value, and stops behind it. -/
structure Spells (reader : Reader α) (text : List Char) (a : α) : Prop where
  solid : Solid text
  reads (p : Position) (rest : List Char) :
    Ends rest → Reaches (reader ⟨p, text ++ rest⟩) a rest

/-- **A whole text.** -/
theorem Reader.run_ofList {reader : Reader α} {text : List Char} {a : α}
    (h : Spells reader text a) : reader.run (String.ofList text) = .ok a := by
  obtain ⟨q, hq⟩ := h.reads ⟨1, 0⟩ [] ends_nil
  rw [List.append_nil] at hq
  rw [run, String.toList_ofList, Cursor.start, hq]
  rfl

end Reaches

/-! ### Words and strings -/

theorem word_append (p : Position) (letters rest : List Char) :
    Reaches (word ⟨p, letters ++ rest⟩ letters) () rest := by
  induction letters generalizing p with
  | nil => exact reaches_ok () p rest
  | cons letter letters ih => simpa [word] using ih (p.after letter)

/-- The digits of a control character. -/
theorem paddedHex_control : ∀ n : Fin 0x20, (Text.paddedHex 4 n).length = 4 ∧
    byteLength (Text.paddedHex 4 n) = 4 ∧ Text.numberIn? 16 (Text.paddedHex 4 n) = some n.val := by
  decide

theorem hexEscape_paddedHex {n : Nat} (h : n < 0x20) (p : Position) (rest : List Char) :
    Reaches (hexEscape ⟨p, Text.paddedHex 4 n ++ rest⟩) n rest := by
  obtain ⟨hlength, hbytes, hvalue⟩ := paddedHex_control ⟨n, h⟩
  have htake : (Text.paddedHex 4 n ++ rest).take 4 = Text.paddedHex 4 n :=
    List.take_left' hlength
  obtain ⟨q, hq⟩ := Cursor.exists_skip p (Text.paddedHex 4 n) rest
  refine ⟨q, ?_⟩
  unfold hexEscape
  simp only [htake, hbytes, hvalue, Nat.lt_irrefl, if_false, ← hq, hlength]

/-- An escape of a control character by number. -/
theorem escape_control {c : Char} (h : c.toNat < 0x20) (p : Position) (rest : List Char) :
    Reaches (escape ⟨p, 'u' :: Text.paddedHex 4 c.toNat ++ rest⟩) c rest := by
  have hpoint : ¬(0xdc00 ≤ c.toNat ∧ c.toNat ≤ 0xdfff) := by omega
  have hsmall : c.toNat < 0xd800 ∨ 0xdbff < c.toNat := by omega
  refine reaches_bind (hexEscape_paddedHex h _ rest) fun q => ⟨q, ?_⟩
  simp [hpoint, hsmall, Char.ofNat_toNat]
  rfl

/-- What an escaped character starts with, and how the text goes on behind it. -/
theorem textChars_escapeChars (budget : Nat) (c : Char) (p : Position) {rest rest' : List Char}
    {chars : List Char} (h : ∀ q, Reaches (textChars budget ⟨q, rest⟩) chars rest') :
    Reaches (textChars (budget + 1) ⟨p, escapeChars c ++ rest⟩) (c :: chars) rest' := by
  have hescape : ∀ {more : List Char},
      (∀ q, Reaches (escape ⟨q, more ++ rest⟩) c rest) →
      Reaches (textChars (budget + 1) ⟨p, '\\' :: more ++ rest⟩) (c :: chars) rest' := by
    intro more hmore
    refine reaches_bind (hmore _) fun q => ?_
    exact reaches_bind (h q) fun q => reaches_ok _ q rest'
  unfold escapeChars
  split
  case h_8 =>
    rename_i hquote hslash _ _ _ _ _
    split
    · rename_i hcontrol
      exact hescape fun q => escape_control hcontrol q rest
    · -- the character stands for itself
      rename_i hplain
      simp only [textChars, List.cons_append, List.nil_append]
      rw [if_neg (by simpa using hquote), if_neg (by simpa using hslash), if_neg hplain]
      exact reaches_bind (h _) fun q => reaches_ok _ q rest'
  all_goals exact hescape fun q => ⟨_, rfl⟩

theorem textChars_encode (chars : List Char) {budget : Nat} (h : chars.length < budget)
    (p : Position) (rest : List Char) :
    Reaches (textChars budget ⟨p, chars.flatMap escapeChars ++ '"' :: rest⟩) chars rest := by
  induction chars generalizing budget p with
  | nil =>
    obtain ⟨budget, rfl⟩ := Nat.exists_eq_add_of_lt h
    exact ⟨_, rfl⟩
  | cons c chars ih =>
    obtain ⟨budget, rfl⟩ := Nat.exists_eq_add_of_lt h
    rw [List.flatMap_cons, List.append_assoc]
    exact textChars_escapeChars _ c p fun q => ih (by simp; omega) q

theorem length_le_flatMap_escapeChars (chars : List Char) :
    chars.length ≤ (chars.flatMap escapeChars).length := by
  have hone : ∀ c, 1 ≤ (escapeChars c).length := by
    intro c
    unfold escapeChars
    split
    case h_8 => split <;> simp
    all_goals simp
  induction chars with
  | nil => simp
  | cons c chars ih =>
    have := hone c
    simp only [List.flatMap_cons, List.length_append, List.length_cons]
    omega

/-- **Strings**, behind the opening quote. -/
theorem text_encode (s : String) (p : Position) (rest : List Char) :
    Reaches (text ⟨p, s.toList.flatMap escapeChars ++ '"' :: rest⟩) s rest := by
  have hbudget := length_le_flatMap_escapeChars s.toList
  have hlength : s.toList.length <
      (s.toList.flatMap escapeChars ++ '"' :: rest).length + 1 := by
    rw [List.length_append]
    omega
  refine reaches_bind (textChars_encode s.toList hlength p rest) fun q => ⟨q, ?_⟩
  change Except.ok (String.ofList s.toList, _) = _
  rw [String.ofList_toList]

theorem solid_encode (s : String) : Solid (encode s) :=
  ⟨'"', _, rfl, by decide, by decide, by decide, by decide⟩

theorem encode_append (s : String) (rest : List Char) :
    encode s ++ rest = '"' :: (s.toList.flatMap escapeChars ++ '"' :: rest) := by simp [encode]

theorem string_encode (s : String) : Spells string (encode s) s := by
  refine ⟨solid_encode s, fun p rest _ => ?_⟩
  rw [encode_append]
  unfold string
  rw [Cursor.trim_cons (by decide)]
  exact text_encode s _ rest

/-! ### Numbers -/

section Numbers

variable {row tail : List Char}

theorem digits_append (h : AreDigits row) (htail : ∀ c ∈ tail.head?, isDigit c = false)
    (p : Position) : ∃ q, digits ⟨p, row ++ tail⟩ = (row, ⟨q, tail⟩) := by
  obtain ⟨q, hq⟩ := Cursor.exists_skip p row tail
  exact ⟨q, by simp [digits, Decimal.takeWhile_digits h htail, hq]⟩

theorem wholeDigits_append (h : IsWhole row) (htail : ∀ c ∈ tail.head?, isDigit c = false)
    (atEnd : Cause) (p : Position) :
    Reaches (wholeDigits atEnd ⟨p, row ++ tail⟩) row tail := by
  rcases h.2 with rfl | ⟨c, row, rfl, hc⟩
  · refine ⟨p.after '0', ?_⟩
    cases tail with
    | nil => rfl
    | cons d tail => simp [wholeDigits, htail d rfl]
  · obtain ⟨q, hq⟩ := digits_append h.1 htail p
    refine ⟨q, ?_⟩
    unfold wholeDigits
    simp only [List.cons_append] at hq ⊢
    rw [if_neg hc, if_pos (Decimal.areDigits_cons.1 h.1).1, hq]

theorem placeDigits_append (h : AreDigits row)
    (htail : ∀ c ∈ tail.head?, isDigit c = false ∧ c ≠ '.') (atEnd : Cause) (p : Position) :
    Reaches (placeDigits atEnd ⟨p, (if row.isEmpty then [] else '.' :: row) ++ tail⟩) row tail := by
  unfold placeDigits
  split
  · rename_i hrow
    have hdot : ¬tail.head? = some '.' := fun hdot => (htail '.' hdot).2 rfl
    rw [List.isEmpty_iff.1 hrow, List.nil_append, if_neg hdot]
    exact reaches_ok _ p tail
  · rename_i hrow
    obtain ⟨q, hq⟩ := digits_append h (fun c hc => (htail c hc).1) (p.after '.')
    refine ⟨q, ?_⟩
    simp [hq, hrow]

namespace Numeral

/-- The text of an exponent. -/
def exponentChars : Option (Bool × List Char) → List Char
  | none => []
  | some (negative, row) => 'e' :: (if negative then '-' else '+') :: row

/-- The text of a numeral. -/
def chars (n : Numeral) : List Char :=
  (if n.negative then ['-'] else []) ++ pointed n.whole n.places ++ exponentChars n.exponent

/-- The parts are rows of digits that make a numeral. -/
structure Regular (n : Numeral) : Prop where
  whole : IsWhole n.whole
  places : AreDigits n.places
  exponent : ∀ e ∈ n.exponent, AreDigits e.2 ∧ e.2 ≠ []

end Numeral

theorem exponentDigits_append {exponent : Option (Bool × List Char)}
    (h : ∀ e ∈ exponent, AreDigits e.2 ∧ e.2 ≠ []) (htail : Ends tail) (atEnd : Cause)
    (p : Position) :
    Reaches (exponentDigits atEnd ⟨p, Numeral.exponentChars exponent ++ tail⟩) exponent tail := by
  match exponent, h with
  | none, _ =>
    have hmark : ¬(tail.head? = some 'e' ∨ tail.head? = some 'E') := by
      rintro (he | he)
      · exact (htail _ he).2.2.1 rfl
      · exact (htail _ he).2.2.2 rfl
    refine ⟨p, ?_⟩
    simp [exponentDigits, Numeral.exponentChars, hmark]
  | some (negative, row), h =>
    obtain ⟨hrow, hne⟩ := h _ rfl
    have hdigits := digits_append hrow fun c hc => (htail c hc).1
    cases negative with
    | true =>
      obtain ⟨q, hq⟩ := hdigits ((p.after 'e').after '-')
      exact ⟨q, by simp [exponentDigits, Numeral.exponentChars, hq, hne]⟩
    | false =>
      obtain ⟨q, hq⟩ := hdigits ((p.after 'e').after '+')
      exact ⟨q, by simp [exponentDigits, Numeral.exponentChars, hq, hne]⟩

/-- The sign of a numeral is told by its first character, which is no sign in a row of digits. -/
theorem exists_unsigned (h : IsWhole row) (negative : Bool) (p : Position) (tail : List Char) :
    ∃ q, (((if negative then ['-'] else []) ++ (row ++ tail)).head? == some '-') = negative ∧
      (if negative = true then
          (⟨p, (if negative then ['-'] else []) ++ (row ++ tail)⟩ : Cursor).next
        else ⟨p, (if negative then ['-'] else []) ++ (row ++ tail)⟩) = ⟨q, row ++ tail⟩ := by
  cases negative with
  | true => exact ⟨p.after '-', by simp, by simp⟩
  | false =>
    obtain ⟨c, row, rfl⟩ := List.exists_cons_of_ne_nil h.ne_nil
    have hc : c ≠ '-' := by
      rintro rfl
      exact absurd (h.1 '-' List.mem_cons_self) (by decide)
    exact ⟨p, by simpa using hc, by simp⟩

/-- **The parts of a numeral.** -/
theorem numeral_chars {n : Numeral} (h : n.Regular) (htail : Ends tail) (atEnd : Cause)
    (p : Position) : Reaches (numeral atEnd ⟨p, n.chars ++ tail⟩) n tail := by
  obtain ⟨negative, whole, places, exponent⟩ := n
  have hexponent : ∀ c ∈ (Numeral.exponentChars exponent ++ tail).head?,
      isDigit c = false ∧ c ≠ '.' := by
    intro c hc
    match exponent with
    | none => exact ⟨(htail c hc).1, (htail c hc).2.1⟩
    | some (_, _) =>
      cases hc
      decide
  have hplaces : ∀ c ∈ ((if places.isEmpty then [] else '.' :: places)
      ++ (Numeral.exponentChars exponent ++ tail)).head?, isDigit c = false := by
    intro c hc
    split at hc
    · exact (hexponent c hc).1
    · cases hc
      decide
  have htext : Numeral.chars ⟨negative, whole, places, exponent⟩ ++ tail =
      (if negative then ['-'] else []) ++ (whole ++ ((if places.isEmpty then []
        else '.' :: places) ++ (Numeral.exponentChars exponent ++ tail))) := by
    simp [Numeral.chars, pointed]
  obtain ⟨q, hsign, hbehind⟩ := exists_unsigned h.whole negative p
    ((if places.isEmpty then [] else '.' :: places) ++ (Numeral.exponentChars exponent ++ tail))
  unfold numeral
  simp only [htext, hsign, hbehind]
  -- behind the sign, the three parts follow one another
  refine reaches_bind (wholeDigits_append h.whole hplaces atEnd q) fun q => ?_
  refine reaches_bind (placeDigits_append h.places hexponent atEnd q) fun q => ?_
  exact reaches_bind (exponentDigits_append h.exponent htail atEnd q) fun q => reaches_ok _ q tail

theorem number_of_integer {n : Numeral} (h : n.Regular) {i : Int} (hi : n.integer? = some i)
    (htail : Ends tail) (p : Position) : Reaches (number ⟨p, n.chars ++ tail⟩) (.integer i) tail :=
  reaches_bind (numeral_chars h htail _ p) fun q => ⟨q, by simp only [hi]; rfl⟩

theorem number_of_float {n : Numeral} (h : n.Regular) (hn : n.isWhole = false) {x : Float}
    (hx : n.float = .ok x) (htail : Ends tail) (p : Position) :
    Reaches (number ⟨p, n.chars ++ tail⟩) (.float x) tail := by
  have hinteger : n.integer? = none := by simp [Numeral.integer?, hn]
  exact reaches_bind (numeral_chars h htail _ p) fun q => ⟨q, by simp only [hinteger, hx]; rfl⟩

/-- The numeral of an integer. -/
def Numeral.ofInteger (i : Int) : Numeral := ⟨i < 0, Nat.toDigits 10 i.natAbs, [], none⟩

theorem Numeral.chars_ofInteger (i : Int) : (Numeral.ofInteger i).chars = integerChars i := by
  by_cases h : i < 0 <;> simp [ofInteger, chars, exponentChars, integerChars, h]

theorem Numeral.regular_ofInteger (i : Int) : (Numeral.ofInteger i).Regular :=
  ⟨Decimal.isWhole_toDigits _, Decimal.areDigits_nil, nofun⟩

theorem Numeral.integer?_ofInteger (i : Int64) :
    (Numeral.ofInteger i.toInt).integer? = some i.toInt := by
  have hlow := i.minValue_le_toInt
  have hhigh := Int64.toInt_le i
  unfold integer?
  simp only [ofInteger, isWhole, Decimal.natOfDecimal_toDigits, decide_eq_true_eq]
  by_cases hneg : i.toInt < 0
  · have habs : -(i.toInt.natAbs : Int) = i.toInt := by omega
    have hne : ¬i.toInt.natAbs = 0 := by omega
    generalize i.toInt.natAbs = n at habs hne
    simp [hneg, habs, hne, Decimal.toInt64?_toInt]
  · have hlimit : i.toInt.natAbs < significandLimit := by
      have : Int64.maxValue.toInt < significandLimit := by decide
      omega
    have habs : (i.toInt.natAbs : Int) = i.toInt := by omega
    generalize i.toInt.natAbs = n at habs hlimit
    simp [hneg, habs, hlimit]

/-- **Integers** of 64 bits. -/
theorem number_integerChars (i : Int64) (htail : Ends tail) (p : Position) :
    Reaches (number ⟨p, integerChars i.toInt ++ tail⟩) (.integer i.toInt) tail := by
  rw [← Numeral.chars_ofInteger]
  exact number_of_integer (Numeral.regular_ofInteger _) (Numeral.integer?_ofInteger i) htail p

/-- The text of a magnitude, with a sign, is a numeral that is not whole. -/
theorem magnitudeChars_numeral (negative : Bool) (mantissa : Nat) (exponent : Int) :
    ∃ n : Numeral, n.chars = (if negative then ['-'] else [])
        ++ Decimal.Layout.document.magnitudeChars mantissa exponent ∧
      n.Regular ∧ n.isWhole = false := by
  unfold Decimal.Layout.magnitudeChars
  generalize hd : (if mantissa = 0 then (⟨0, 0⟩ : Decimal.Digits)
    else Decimal.shortest mantissa exponent) = d
  have hdigits : IsWhole d.chars := Decimal.isWhole_toDigits d.value
  simp only
  by_cases hpositional : Decimal.Layout.document.positional d.leading = true
  · obtain ⟨whole, places, htext, hwhole, hplaces, hne⟩ :=
      Decimal.Layout.positionalChars_pointed hdigits (Decimal.leading_of_zero hd.symm) true
    refine ⟨⟨negative, whole, places, none⟩, ?_, ⟨hwhole, hplaces, nofun⟩, ?_⟩
    · rw [if_pos hpositional]
      simp [Numeral.chars, Numeral.exponentChars, Decimal.Layout.document, htext]
    · simp [Numeral.isWhole, hne (.inl rfl)]
  · obtain ⟨whole, places, htext, hwhole, hplaces⟩ :=
      Decimal.Layout.exponentChars_pointed hdigits d.leading
    have hrow := Decimal.isWhole_toDigits d.leading.natAbs
    refine ⟨⟨negative, whole, places, some (d.leading < 0, Nat.toDigits 10 d.leading.natAbs)⟩,
      ?_, ⟨hwhole, hplaces, ?_⟩, by simp [Numeral.isWhole]⟩
    · rw [if_neg hpositional]
      simp [Numeral.chars, Numeral.exponentChars, Decimal.Layout.document, htext]
    · rintro e ⟨⟩
      exact ⟨hrow.1, hrow.ne_nil⟩

/-- The text of a finite float is a numeral that is not whole. -/
theorem floatChars_numeral {x : Float} (h : Decimal.isFinite x = true) :
    ∃ n : Numeral, floatChars x = n.chars ∧ n.Regular ∧ n.isWhole = false := by
  unfold floatChars
  rw [if_pos h]
  unfold Decimal.isFinite at h
  unfold Decimal.Layout.render
  split at h
  · rename_i negative mantissa exponent hbinary
    obtain ⟨n, hn, hparts⟩ := magnitudeChars_numeral negative mantissa exponent
    refine ⟨n, ?_, hparts⟩
    rw [hn]
    cases negative <;> simp [hbinary]
  · cases h

/-- The text of a float is a numeral with the value of that float. -/
def ReadsBack (x : Float) : Prop :=
  ∀ n c, numeral .endInValue (.start (floatChars x)) = .ok (n, c) → n.float = .ok x

/-- Whether the text of a float reads back is found by reading it. -/
instance decidableReadsBack (x : Float) : Decidable (ReadsBack x) :=
  match h : numeral .endInValue (.start (floatChars x)) with
  | .ok (n, c) => decidable_of_iff (n.float = .ok x) (by simp [ReadsBack, h])
  | .error _ => isTrue (by simp [ReadsBack, h])

/-- **Floats** whose texts have their values. -/
theorem number_floatChars {x : Float} (h : Decimal.isFinite x = true) (hback : ReadsBack x)
    (htail : Ends tail) (p : Position) :
    Reaches (number ⟨p, floatChars x ++ tail⟩) (.float x) tail := by
  obtain ⟨n, htext, hregular, hwhole⟩ := floatChars_numeral h
  obtain ⟨q, hq⟩ := numeral_chars hregular ends_nil .endInValue ⟨1, 0⟩
  have hfloat : n.float = .ok x := by
    refine hback n ⟨q, []⟩ ?_
    rw [htext, ← hq, List.append_nil]
    rfl
  rw [htext]
  exact number_of_float hregular hwhole hfloat htail p

/-- A numeral starts with its sign or with a digit. -/
theorem Numeral.chars_start {n : Numeral} (h : n.Regular) :
    ∃ c more, n.chars = c :: more ∧ (c = '-' ∨ isDigit c = true) := by
  obtain ⟨c, row, hwhole⟩ := List.exists_cons_of_ne_nil h.whole.ne_nil
  have hc : isDigit c = true := h.whole.1 c (hwhole ▸ List.mem_cons_self)
  unfold chars
  cases n.negative with
  | true => exact ⟨'-', _, rfl, .inl rfl⟩
  | false =>
    rw [hwhole]
    exact ⟨c, _, rfl, .inr hc⟩

end Numbers

/-! ### Arrays -/

section Arrays

variable {α : Type} {item : Reader α}

theorem separated_cons (text : List Char) (texts : List (List Char)) :
    separated (text :: texts) = text ++ texts.flatMap (',' :: ·) := by
  induction texts generalizing text with
  | nil => simp [separated]
  | cons next texts ih => simp [separated, ih]

theorem nextItem_closer (kind : Container) (first : Bool) (p : Position) (rest : List Char) :
    Reaches (nextItem kind first ⟨p, kind.closer :: rest⟩) false (kind.closer :: rest) := by
  unfold nextItem
  rw [Cursor.trim_cons (by cases kind <;> decide)]
  simp [reaches_ok]

theorem close_closer (kind : Container) (p : Position) (rest : List Char) :
    kind.close ⟨p, kind.closer :: rest⟩ = (none, ⟨p.after kind.closer, rest⟩) := by
  unfold Container.close
  rw [Cursor.trim_cons (by cases kind <;> decide)]
  simp

theorem Solid.ne_closer {text : List Char} (h : Solid text) (kind : Container) :
    ∃ c more, text = c :: more ∧ isBlank c = false ∧ c ≠ kind.closer := by
  obtain ⟨c, more, htext, hblank, -, hbracket, hbrace⟩ := h
  exact ⟨c, more, htext, hblank, by cases kind <;> assumption⟩

theorem nextItem_first {text : List Char} (h : Solid text) (kind : Container) (p : Position)
    (rest : List Char) :
    Reaches (nextItem kind true ⟨p, text ++ rest⟩) true (text ++ rest) := by
  obtain ⟨c, more, rfl, hblank, hcloser⟩ := h.ne_closer kind
  unfold nextItem
  rw [List.cons_append, Cursor.trim_cons hblank]
  simp [hcloser, reaches_ok]

theorem nextItem_comma {text : List Char} (h : Solid text) (kind : Container) (p : Position)
    (rest : List Char) :
    Reaches (nextItem kind false ⟨p, ',' :: (text ++ rest)⟩) true (text ++ rest) := by
  obtain ⟨c, more, rfl, hblank, hcloser⟩ := h.ne_closer kind
  have hcomma : ',' ≠ kind.closer := by cases kind <;> decide
  unfold nextItem
  rw [Cursor.trim_cons (by decide)]
  simp only [hcomma, if_false, Cursor.next_cons, List.cons_append, Cursor.trim_cons hblank]
  simp [hcloser, reaches_ok]

theorem finish_closer {α : Type} (kind : Container) {body : Except Failure (α × Cursor)} {a : α}
    {rest : List Char} (h : Reaches body a (kind.closer :: rest)) :
    Reaches (kind.finish body) a rest := by
  obtain ⟨q, rfl⟩ := h
  exact ⟨q.after kind.closer, by simp [Container.finish, close_closer]⟩

/-- Whatever follows an item, another one or the end, ends it. -/
theorem ends_more (kind : Container) (texts : List (List Char)) (rest : List Char) :
    Ends (texts.flatMap (',' :: ·) ++ kind.closer :: rest) := by
  cases texts with
  | nil => exact ends_closer kind rest
  | cons _ _ => exact ends_comma _

/-- Items behind the first one, each behind its comma. -/
theorem items_more {texts : List (List Char)} {values : List α}
    (h : List.Forall₂ (Spells item) texts values) {budget : Nat} (hbudget : values.length < budget)
    (p : Position) (rest : List Char) :
    Reaches (items item budget false ⟨p, texts.flatMap (',' :: ·) ++ ']' :: rest⟩) values
      (']' :: rest) := by
  induction h generalizing budget p with
  | nil =>
    obtain ⟨budget, rfl⟩ := Nat.exists_eq_add_of_lt hbudget
    exact reaches_bind (nextItem_closer .array false p rest) fun q => reaches_ok [] q _
  | @cons text value texts values hitem _ ih =>
    obtain ⟨budget, rfl⟩ := Nat.exists_eq_add_of_lt hbudget
    have hends : Ends (texts.flatMap (',' :: ·) ++ ']' :: rest) := ends_more .array texts rest
    rw [List.flatMap_cons, List.cons_append, List.cons_append, List.append_assoc]
    refine reaches_bind (nextItem_comma hitem.solid .array p _) fun q => ?_
    refine reaches_bind (hitem.reads q _ hends) fun q => ?_
    exact reaches_bind (ih (by simp; omega) q) fun q => reaches_ok _ q _

theorem solid_arrayChars (texts : List (List Char)) : Solid (arrayChars texts) :=
  ⟨'[', _, rfl, by decide, by decide, by decide, by decide⟩

theorem length_le_flatMap_comma (texts : List (List Char)) :
    texts.length ≤ (texts.flatMap (',' :: ·)).length := by
  induction texts with
  | nil => simp
  | cons text texts ih =>
    simp only [List.flatMap_cons, List.length_append, List.length_cons]
    omega

/-- **Arrays** of texts that the reader of the items reads. -/
theorem array_arrayChars {texts : List (List Char)} {values : List α}
    (h : List.Forall₂ (Spells item) texts values) (p : Position) (rest : List Char) :
    Reaches (array item ⟨p, arrayChars texts ++ rest⟩) values rest := by
  apply finish_closer .array
  cases h with
  | nil => exact reaches_bind (nextItem_closer .array true _ rest) fun q => reaches_ok [] q _
  | @cons text value texts values hitem hitems =>
    have hlength := hitems.length_eq
    have hends : Ends (texts.flatMap (',' :: ·) ++ ']' :: rest) := ends_more .array texts rest
    have htext : arrayChars (text :: texts) ++ rest =
        '[' :: (text ++ (texts.flatMap (',' :: ·) ++ ']' :: rest)) := by
      simp [arrayChars, separated_cons]
    have hbudget := length_le_flatMap_comma texts
    rw [htext]
    refine reaches_bind (nextItem_first hitem.solid .array _ _) fun q => ?_
    refine reaches_bind (hitem.reads q _ hends) fun q => ?_
    refine reaches_bind (items_more hitems ?_ q rest) fun q => reaches_ok _ q _
    simp only [List.length_cons, List.length_append]
    omega

end Arrays

/-! ### Objects -/

section Objects

variable {σ τ : Type} {step : σ → String → Reader σ}

theorem colon_cons (p : Position) (rest : List Char) : Reaches (colon ⟨p, ':' :: rest⟩) () rest :=
  ⟨_, rfl⟩

/-- The step reads one member after another behind their names, and gathers them. -/
inductive Gathers (step : σ → String → Reader σ) : σ → List (String × List Char) → σ → Prop
  | done (gathered : σ) : Gathers step gathered [] gathered
  | member {gathered next last : σ} {name : String} {text : List Char}
      {others : List (String × List Char)}
      (reads : ∀ p rest, Ends rest →
        Reaches (step gathered name ⟨p, ':' :: (text ++ rest)⟩) next rest)
      (more : Gathers step next others last) :
      Gathers step gathered ((name, text) :: others) last

/-- The text of a member. -/
def memberChars (m : String × List Char) : List Char := encode m.1 ++ ':' :: m.2

theorem solid_memberChars (m : String × List Char) : Solid (memberChars m) :=
  ⟨'"', _, rfl, by decide, by decide, by decide, by decide⟩

theorem key_encode (s : String) (p : Position) (rest : List Char) :
    Reaches (key ⟨p, encode s ++ rest⟩) s rest := by
  rw [encode_append]
  exact text_encode s _ rest

/-- Members behind the first one, each behind its comma. -/
theorem members_more {gathered last : σ} {all : List (String × List Char)}
    (h : Gathers step gathered all last) {budget : Nat} (hbudget : all.length < budget)
    (p : Position) (rest : List Char) :
    Reaches (members step budget false gathered
      ⟨p, (all.map memberChars).flatMap (',' :: ·) ++ '\x7d' :: rest⟩) last ('\x7d' :: rest) := by
  induction h generalizing budget p with
  | done gathered =>
    obtain ⟨budget, rfl⟩ := Nat.exists_eq_add_of_lt hbudget
    exact reaches_bind (nextItem_closer .object false p rest) fun q => reaches_ok gathered q _
  | @member gathered next last name text others hreads _ ih =>
    obtain ⟨budget, rfl⟩ := Nat.exists_eq_add_of_lt hbudget
    have hends : Ends ((others.map memberChars).flatMap (',' :: ·) ++ '\x7d' :: rest) :=
      ends_more .object _ rest
    rw [List.map_cons, List.flatMap_cons, List.cons_append, List.cons_append, List.append_assoc]
    refine reaches_bind (nextItem_comma (solid_memberChars _) .object p _) fun q => ?_
    rw [memberChars, List.append_assoc]
    refine reaches_bind (key_encode name q _) fun q => ?_
    refine reaches_bind (hreads q _ hends) fun q => ?_
    exact ih (by simp; omega) q

theorem solid_objectChars (all : List (String × List Char)) : Solid (objectChars all) :=
  ⟨'\x7b', _, rfl, by decide, by decide, by decide, by decide⟩

/-- **Objects** of members that are gathered one after another. -/
theorem object_objectChars {start last : σ} {all : List (String × List Char)}
    (h : Gathers step start all last) {result : σ → Except Cause τ} {t : τ}
    (hresult : result last = .ok t) (p : Position) (rest : List Char) :
    Reaches (object step start result ⟨p, objectChars all ++ rest⟩) t rest := by
  suffices hmembers : Reaches (members step ((objectChars all ++ rest).length + 1) true start
      (Cursor.next ⟨p, objectChars all ++ rest⟩)) last ('\x7d' :: rest) from
    finish_closer .object (reaches_bind hmembers fun q => ⟨q, by simp only [hresult]; rfl⟩)
  cases h with
  | done => exact reaches_bind (nextItem_closer .object true _ rest) fun q => reaches_ok _ q _
  | @member _ next _ name text others hreads hmore =>
    have hends : Ends ((others.map memberChars).flatMap (',' :: ·) ++ '\x7d' :: rest) :=
      ends_more .object _ rest
    have htext : objectChars ((name, text) :: others) ++ rest = '\x7b' :: (memberChars (name, text)
        ++ ((others.map memberChars).flatMap (',' :: ·) ++ '\x7d' :: rest)) := by
      have hmembers : memberChars = fun m => encode m.1 ++ ':' :: m.2 := rfl
      simp [objectChars, separated_cons, hmembers]
    have hbudget := length_le_flatMap_comma (others.map memberChars)
    rw [htext]
    refine reaches_bind (nextItem_first (solid_memberChars _) .object _ _) fun q => ?_
    rw [memberChars, List.append_assoc]
    refine reaches_bind (key_encode name q _) fun q => ?_
    refine reaches_bind (hreads q _ hends) fun q => ?_
    refine members_more hmore ?_ q rest
    simp only [List.length_cons, List.length_append, List.length_map] at hbudget ⊢
    omega

end Objects

/-! ### Documents -/

section Documents

variable {arrays objects : Reader Document}

/-- Documents of any depth read everything but arrays and objects alike. -/
theorem exists_documentWith (depth : Nat) :
    ∃ arrays objects, document depth = documentWith arrays objects := by
  cases depth <;> exact ⟨_, _, rfl⟩

theorem documentWith_null : Spells (documentWith arrays objects) ['n', 'u', 'l', 'l'] .null := by
  refine ⟨⟨'n', _, rfl, by decide, by decide, by decide, by decide⟩, fun p rest _ => ?_⟩
  exact reaches_bind (word_append _ ['u', 'l', 'l'] rest) fun q => reaches_ok _ q rest

theorem documentWith_bool (b : Bool) :
    Spells (documentWith arrays objects) (boolChars b) (.bool b) := by
  cases b with
  | true =>
    refine ⟨⟨'t', _, rfl, by decide, by decide, by decide, by decide⟩, fun p rest _ => ?_⟩
    exact reaches_bind (word_append _ ['r', 'u', 'e'] rest) fun q => reaches_ok _ q rest
  | false =>
    refine ⟨⟨'f', _, rfl, by decide, by decide, by decide, by decide⟩, fun p rest _ => ?_⟩
    exact reaches_bind (word_append _ ['a', 'l', 's', 'e'] rest) fun q => reaches_ok _ q rest

/-- The document of a number. -/
def Number.document : Number → Document
  | .integer i => .integer i
  | .float x => .float x

/-- The first character of a numeral is that of nothing else. -/
theorem start_of_numeral {c : Char} (h : c = '-' ∨ isDigit c = true) :
    isBlank c = false ∧ c ≠ ',' ∧ c ≠ ']' ∧ c ≠ '\x7d' ∧ c ≠ 'n' ∧ c ≠ 't' ∧ c ≠ 'f' := by
  rcases h with rfl | h
  · decide
  · have hne : ∀ d, isDigit d = false → c ≠ d := by
      rintro d hd rfl
      rw [hd] at h
      cases h
    refine ⟨?_, hne _ (by decide), hne _ (by decide), hne _ (by decide), hne _ (by decide),
      hne _ (by decide), hne _ (by decide)⟩
    simp only [isBlank, Bool.or_eq_false_iff, beq_eq_false_iff_ne]
    exact ⟨⟨⟨hne _ (by decide), hne _ (by decide)⟩, hne _ (by decide)⟩, hne _ (by decide)⟩

theorem documentWith_number {text : List Char} {n : Number}
    (hstart : ∃ c more, text = c :: more ∧ (c = '-' ∨ isDigit c = true))
    (h : ∀ p rest, Ends rest → Reaches (number ⟨p, text ++ rest⟩) n rest) :
    Spells (documentWith arrays objects) text n.document := by
  obtain ⟨c, more, rfl, hc⟩ := hstart
  obtain ⟨hblank, hcomma, hbracket, hbrace, hn, ht, hf⟩ := start_of_numeral hc
  refine ⟨⟨c, more, rfl, hblank, hcomma, hbracket, hbrace⟩, fun p rest hrest => ?_⟩
  unfold documentWith
  rw [List.cons_append, Cursor.trim_cons hblank]
  simp only [hn, ht, hf, hc, if_false, if_true]
  exact reaches_bind (h p rest hrest) fun q => by cases n <;> exact reaches_ok _ q rest

theorem documentWith_string (s : String) :
    Spells (documentWith arrays objects) (encode s) (.string s) := by
  refine ⟨solid_encode s, fun p rest _ => ?_⟩
  rw [encode_append]
  exact reaches_bind (text_encode s _ rest) fun q => reaches_ok _ q rest

/-- An array is one level deeper than its items. -/
theorem document_array {depth : Nat} {texts : List (List Char)} {items : List Document}
    (h : List.Forall₂ (Spells (document depth)) texts items) :
    Spells (document (depth + 1)) (arrayChars texts) (.array items) := by
  refine ⟨solid_arrayChars texts, fun p rest _ => ?_⟩
  exact reaches_bind (array_arrayChars h p rest) fun q => reaches_ok _ q rest

end Documents

end VectorScene.Json
