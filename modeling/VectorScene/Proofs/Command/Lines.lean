import VectorScene.Command.Call

/-!
# Texts of one line

A recorded call takes up one line of a log file. The names and strings in it may hold any
characters, but the ends of lines among them are written as escapes, both in JSON text and in the
expression that makes the call; numbers hold none.

## Main definitions

* `Text.OneLine`: a text in which no line ends

## Main results

* `Call.oneLine_jsonChars`: a call as JSON text
* `oneLine_callChars`: the expression that makes a call, if the command's name is an identifier
-/

namespace VectorScene

namespace Text

/-- A text in which no line ends. -/
def OneLine (text : List Char) : Prop := ∀ c ∈ text, c ≠ '\n' ∧ c ≠ '\r'

section OneLine

variable {text text' : List Char}

@[simp] theorem oneLine_nil : OneLine [] := by simp [OneLine]

@[simp] theorem oneLine_cons {c : Char} :
    OneLine (c :: text) ↔ (c ≠ '\n' ∧ c ≠ '\r') ∧ OneLine text := List.forall_mem_cons

@[simp] theorem oneLine_append : OneLine (text ++ text') ↔ OneLine text ∧ OneLine text' :=
  List.forall_mem_append

theorem OneLine.subset (h : OneLine text) (hsubset : text' ⊆ text) : OneLine text' :=
  fun c hc => h c (hsubset hc)

theorem OneLine.replicate {c : Char} (hc : c ≠ '\n' ∧ c ≠ '\r') (n : Nat) :
    OneLine (List.replicate n c) := by
  intro d hd
  rw [List.eq_of_mem_replicate hd]
  exact hc

theorem OneLine.flatMap {α : Type} {items : List α} {f : α → List Char}
    (h : ∀ a ∈ items, OneLine (f a)) : OneLine (items.flatMap f) := by
  intro c hc
  obtain ⟨a, ha, hc⟩ := List.mem_flatMap.1 hc
  exact h a ha c hc

end OneLine

/-- An identifier is one line. -/
theorem oneLine_of_isIdentifier {name : String} (h : isIdentifier name) :
    OneLine name.toList := by
  have hpart : ∀ c, isIdentifierPart c → c ≠ '\n' ∧ c ≠ '\r' := by
    intro c hc
    constructor <;> (rintro rfl; revert hc; decide)
  unfold isIdentifier at h
  cases hname : name.toList with
  | nil => exact oneLine_nil
  | cons c rest =>
    simp only [hname, Bool.and_eq_true, List.all_eq_true] at h
    obtain ⟨hfirst, hrest⟩ := h
    refine oneLine_cons.2 ⟨hpart c ?_, fun d hd => hpart d (hrest d hd)⟩
    simp [isIdentifierPart, hfirst]

/-- Hexadecimal digits are one line. -/
theorem oneLine_hexDigits (n : Nat) : OneLine (hexDigits n) := by
  have hdigit : ∀ d : Fin 16, Nat.digitChar d ≠ '\n' ∧ Nat.digitChar d ≠ '\r' := by decide
  unfold hexDigits
  induction n using Nat.strongRecOn with
  | ind n ih =>
    by_cases hn : n < 16
    · rw [Nat.toDigits_of_lt_base hn]
      exact oneLine_cons.2 ⟨hdigit ⟨n, hn⟩, oneLine_nil⟩
    · -- the last digit stands behind those of the quotient
      rw [Nat.toDigits_of_base_le (by decide) (by omega)]
      refine oneLine_append.2 ⟨ih (n / 16) (by omega), ?_⟩
      exact oneLine_cons.2 ⟨hdigit ⟨n % 16, Nat.mod_lt _ (by decide)⟩, oneLine_nil⟩

theorem oneLine_paddedHex (width n : Nat) : OneLine (paddedHex width n) :=
  oneLine_append.2 ⟨OneLine.replicate (by decide) _, oneLine_hexDigits n⟩

end Text

open Text

/-! ### Numbers -/

namespace Decimal

theorem oneLine_toDigits (n : Nat) : OneLine (Nat.toDigits 10 n) := by
  intro c hc
  have hdigit := Nat.isDigit_of_mem_toDigits (by decide) (by decide) hc
  constructor <;> (rintro rfl; revert hdigit; decide)

namespace Layout

theorem oneLine_positionalChars (wholePlace : Bool) {digits : List Char} (h : OneLine digits)
    (leading : Int) : OneLine (positionalChars wholePlace digits leading) := by
  have htake : ∀ n, OneLine (digits.take n) := fun n => h.subset (List.take_subset n digits)
  have hdrop : ∀ n, OneLine (digits.drop n) := fun n => h.subset (List.drop_subset n digits)
  have hzeros : ∀ n, OneLine (List.replicate n '0') := OneLine.replicate (by decide)
  unfold positionalChars
  split
  · simp [h, hzeros]
  · simp only
    split
    · split <;> simp [htake, hzeros]
    · simp [htake, hdrop, hzeros]

theorem oneLine_exponentChars (sign : Bool) {digits : List Char} (h : OneLine digits)
    (leading : Int) : OneLine (exponentChars sign digits leading) := by
  unfold exponentChars
  refine oneLine_append.2 ⟨oneLine_append.2 ⟨?_, ?_⟩, oneLine_toDigits _⟩
  · -- the first digit stands before the point, if there are others
    match digits with
    | [] => simp
    | [first] => exact h
    | first :: second :: rest =>
      obtain ⟨hfirst, hrest⟩ := oneLine_cons.1 h
      exact oneLine_cons.2 ⟨hfirst, oneLine_cons.2 ⟨by decide, hrest⟩⟩
  · split
    · simp
    · split <;> simp

/-- The text of a float is one line. -/
theorem oneLine_render (layout : Layout) (x : Float) : OneLine (layout.render x).toList := by
  unfold render
  cases Binary.ofFloat x with
  | notANumber => simp
  | infinite negative => cases negative <;> simp
  | finite negative mantissa exponent =>
    have hmagnitude : OneLine (layout.magnitudeChars mantissa exponent) := by
      unfold magnitudeChars
      generalize (if mantissa = 0 then _ else _ : Digits) = d
      have hdigits : OneLine d.chars := oneLine_toDigits d.value
      simp only
      split
      · exact oneLine_positionalChars _ hdigits _
      · exact oneLine_exponentChars _ hdigits _
    cases negative <;> simp [hmagnitude]

end Layout

theorem oneLine_fixed (places : Nat) (x : Float) : OneLine (fixed places x).toList := by
  unfold fixed
  cases Binary.ofFloat x with
  | notANumber => simp
  | infinite negative => cases negative <;> simp
  | finite negative mantissa exponent =>
    have hfixed : ∀ n, OneLine (fixedChars n places) := by
      intro n
      have hpadded : OneLine (List.replicate (places + 1 - (Nat.toDigits 10 n).length) '0' ++
          Nat.toDigits 10 n) :=
        oneLine_append.2 ⟨OneLine.replicate (by decide) _, oneLine_toDigits n⟩
      unfold fixedChars
      simp only
      split
      · exact hpadded.subset (List.take_subset _ _)
      · refine oneLine_append.2 ⟨hpadded.subset (List.take_subset _ _), ?_⟩
        exact oneLine_cons.2 ⟨by decide, hpadded.subset (List.drop_subset _ _)⟩
    cases negative <;> simp [hfixed]

end Decimal

/-! ### JSON text -/

namespace Json

theorem oneLine_escapeChars (c : Char) : OneLine (escapeChars c) := by
  unfold escapeChars
  split
  case h_8 hbreak hreturn _ =>
    split
    · -- the other control characters are written by number
      simp [oneLine_paddedHex]
    · simp only [oneLine_cons, oneLine_nil, and_true]
      exact ⟨hbreak, hreturn⟩
  all_goals simp

/-- A string as JSON text is one line. -/
theorem oneLine_encode (s : String) : OneLine (encode s) := by
  have hchars : OneLine (s.toList.flatMap escapeChars) :=
    OneLine.flatMap fun c _ => oneLine_escapeChars c
  simp [encode, hchars]

theorem oneLine_integerChars (i : Int) : OneLine (integerChars i) := by
  unfold integerChars
  split <;> simp [Decimal.oneLine_toDigits]

theorem oneLine_floatChars (x : Float) : OneLine (floatChars x) := by
  unfold floatChars
  split
  · exact Decimal.Layout.oneLine_render _ x
  · simp

theorem oneLine_boolChars (b : Bool) : OneLine (boolChars b) := by
  cases b <;> simp [boolChars]

theorem oneLine_separated {items : List (List Char)} (h : ∀ t ∈ items, OneLine t) :
    OneLine (separated items) := by
  -- induction along the recursion of `separated`, for which a single item is a case of its own
  induction items using separated.induct with
  | case1 => simp [separated]
  | case2 one => exact h one (by simp)
  | case3 one others _ ih =>
    obtain ⟨hone, hothers⟩ := List.forall_mem_cons.1 h
    simp [separated, hone, ih hothers]

theorem oneLine_arrayChars {items : List (List Char)} (h : ∀ t ∈ items, OneLine t) :
    OneLine (arrayChars items) := by
  simp [arrayChars, oneLine_separated h]

theorem oneLine_objectChars {members : List (String × List Char)}
    (h : ∀ m ∈ members, OneLine m.2) : OneLine (objectChars members) := by
  have hmembers : ∀ t ∈ members.map (fun m => encode m.1 ++ ':' :: m.2), OneLine t := by
    intro t ht
    obtain ⟨m, hm, rfl⟩ := List.mem_map.1 ht
    simp [oneLine_encode, h m hm]
  simp [objectChars, oneLine_separated hmembers]

end Json

/-! ### Values and calls -/

namespace Command

namespace Value

theorem oneLine_stringLiteral (s : String) : OneLine (stringLiteral s) := by
  have hescape : ∀ c, OneLine (literalEscape c) := by
    intro c
    unfold literalEscape
    split
    case h_6 hbreak hreturn _ => simpa using ⟨hbreak, hreturn⟩
    all_goals simp
  have hchars : OneLine (s.toList.flatMap literalEscape) := OneLine.flatMap fun c _ => hescape c
  simp [stringLiteral, hchars]

theorem oneLine_floatLiteral (x : Float) : OneLine (floatLiteral x) := by
  unfold floatLiteral
  split
  · exact Decimal.oneLine_fixed 1 x
  · exact Decimal.Layout.oneLine_render _ x

theorem oneLine_spaced {items : List (List Char)} (h : ∀ t ∈ items, OneLine t) :
    OneLine (spaced items) := by
  induction items using spaced.induct with
  | case1 => simp [spaced]
  | case2 one => exact h one (by simp)
  | case3 one others _ ih =>
    obtain ⟨hone, hothers⟩ := List.forall_mem_cons.1 h
    simp [spaced, hone, ih hothers]

mutual

/-- The literal of a value is one line. -/
theorem oneLine_literalChars (v : Value) : OneLine v.literalChars := by
  cases v with
  | absent => simp [literalChars]
  | bool b => exact Json.oneLine_boolChars b
  | int i => exact Json.oneLine_integerChars i.toInt
  | float x => exact oneLine_floatLiteral x
  | string s => exact oneLine_stringLiteral s
  | list items => simp [literalChars, oneLine_spaced (oneLine_literals items)]

theorem oneLine_literals (items : List Value) : ∀ t ∈ literals items, OneLine t := by
  cases items with
  | nil => simp [literals]
  | cons v rest =>
    rw [literals]
    exact List.forall_mem_cons.2 ⟨oneLine_literalChars v, oneLine_literals rest⟩

end

mutual

/-- The JSON text of a value is one line. -/
theorem oneLine_jsonChars (v : Value) : OneLine v.jsonChars := by
  cases v with
  | absent => simp [jsonChars]
  | bool b => exact Json.oneLine_boolChars b
  | int i => exact Json.oneLine_integerChars i.toInt
  | float x => exact Json.oneLine_floatChars x
  | string s => exact Json.oneLine_encode s
  | list items => exact Json.oneLine_arrayChars (oneLine_jsonTexts items)

theorem oneLine_jsonTexts (items : List Value) : ∀ t ∈ jsonTexts items, OneLine t := by
  cases items with
  | nil => simp [jsonTexts]
  | cons v rest =>
    rw [jsonTexts]
    exact List.forall_mem_cons.2 ⟨oneLine_jsonChars v, oneLine_jsonTexts rest⟩

end

end Value

/-- The JSON text of a call is one line. -/
theorem Call.oneLine_jsonChars (c : Call) : OneLine c.jsonChars := by
  have hargs : OneLine c.args.jsonChars := by
    refine Json.oneLine_objectChars fun m hm => ?_
    obtain ⟨entry, -, rfl⟩ := List.mem_map.1 hm
    exact entry.2.oneLine_jsonChars
  refine Json.oneLine_objectChars ?_
  simp [Json.oneLine_encode, hargs]

/-- The expression that makes a call is one line if the command's name is one. -/
theorem oneLine_callChars {name : String} (h : OneLine name.toList) (parameters : List Parameter)
    (args : Args) : OneLine (callChars name parameters args) := by
  have harguments : ∀ t ∈ (usedParameters parameters args).map (argumentLiteral args),
      OneLine t := by
    intro t ht
    obtain ⟨p, -, rfl⟩ := List.mem_map.1 ht
    exact Value.oneLine_literalChars _
  simp [callChars, h, Value.oneLine_spaced harguments]

end Command

end VectorScene
