import VectorScene.Command.Bridge
import VectorScene.Proofs.Command.Export
import VectorScene.Proofs.Command.Lines
import VectorScene.Proofs.Decimal.Places
import VectorScene.Proofs.Script.Parsing
import VectorScene.Proofs.Script.Running
import VectorScene.Proofs.Script.Scanning

/-!
# Literals of values

The literal of a value is read by scripts as that value. Its text is scanned into the tokens of an
expression, which has the value and no effect.

## Main definitions

* `Value.ReadsAlike`: the literal of a float is read as that float
* `Value.tokens`, `Value.expression`: what a literal is scanned into and read as

## Main results

* `Value.kept_literalChars`: no comment starts in a literal
* `Value.scans_literalChars`: the tokens of a literal
* `Value.isItem_expression`: the expression of its tokens
* `Value.evaluate_expression`: the value of the expression
-/

namespace VectorScene.Command

open Script (Lexeme Scanned Closes IsItem Kept spacedTokens)
open Decimal (AreDigits IsPointed isDigit)

namespace Value

/-- The float that a text with a sign, digits and a point is read as. -/
def pointedFloat (text : List Char) : Float :=
  let digits := text.dropWhile (· == '-')
  Script.decimalFloat (text.head? == some '-') (digits.takeWhile isDigit)
    (digits.dropWhile isDigit).tail 0

/-- The literal of a float is read as that float. -/
def ReadsAlike (x : Float) : Prop := pointedFloat (floatLiteral x) = x

instance decidableReadsAlike (x : Float) : Decidable (ReadsAlike x) :=
  inferInstanceAs (Decidable (_ = _))

/-- Finite floats with literals that are read as them. -/
def Literate (floats : List Float) : Prop :=
  ∀ x ∈ floats, Decimal.isFinite x = true ∧ ReadsAlike x

mutual

/-- The tokens of the literal of a value. -/
def tokens : Value → List Lexeme
  | absent => [⟨.mark .openParen, 1⟩, ⟨.mark .closeParen, 1⟩]
  | bool b => [⟨.keyword (if b then .yes else .no), 1⟩]
  | int i => [⟨.integer i, 1⟩]
  | float x => [⟨.float x, 1⟩]
  | string s => [⟨.string s, 1⟩]
  | list items =>
    ⟨.mark .openBracket, 1⟩ :: (spacedTokens 1 (tokenRows items) ++ [⟨.mark .closeBracket, 1⟩])

/-- The tokens of the literals of values. -/
def tokenRows : List Value → List (List Lexeme)
  | [] => []
  | v :: rest => tokens v :: tokenRows rest

end

mutual

/-- The expression of the literal of a value. -/
def expression : Value → Script.Expression
  | absent => .literal .unit
  | bool b => .literal (.bool b)
  | int i => .literal (.integer i)
  | float x => .literal (.float x)
  | string s => .literal (.string s)
  | list items => .array (expressions items)

/-- The expressions of the literals of values. -/
def expressions : List Value → List Script.Expression
  | [] => []
  | v :: rest => expression v :: expressions rest

end

theorem literals_eq_map (items : List Value) : literals items = items.map literalChars := by
  induction items with
  | nil => rfl
  | cons v rest ih => rw [literals, ih, List.map_cons]

theorem tokenRows_eq_map (items : List Value) : tokenRows items = items.map tokens := by
  induction items with
  | nil => rfl
  | cons v rest ih => rw [tokenRows, ih, List.map_cons]

theorem expressions_eq_map (items : List Value) : expressions items = items.map expression := by
  induction items with
  | nil => rfl
  | cons v rest ih => rw [expressions, ih, List.map_cons]

theorem toScripts_eq_map (items : List Value) : toScripts items = items.map toScript := by
  induction items with
  | nil => rfl
  | cons v rest ih => rw [toScripts, ih, List.map_cons]

theorem mem_floatsOf {x : Float} {values : List Value} :
    x ∈ floatsOf values ↔ ∃ v ∈ values, x ∈ v.floats := by
  induction values with
  | nil => simp [floatsOf]
  | cons v rest ih => simp [floatsOf, ih]

/-! ### Characters -/

theorem spelling_literalEscape (c : Char) : Script.Spelling c (literalEscape c) := by
  unfold literalEscape
  split
  case h_6 hslash hquote hbreak _ _ => exact .plain hquote hslash hbreak
  all_goals exact .escaped rfl

theorem pointedFloat_parts (negative : Bool) {whole : List Char} (hwhole : AreDigits whole)
    (hne : whole ≠ []) (places : List Char) :
    pointedFloat ((if negative then ['-'] else []) ++ whole ++ '.' :: places) =
      Script.decimalFloat negative whole places 0 := by
  have htake : (whole ++ '.' :: places).takeWhile isDigit = whole :=
    Decimal.takeWhile_digits hwhole fun c hc => by
      cases hc
      decide
  have hdrop : (whole ++ '.' :: places).dropWhile isDigit = '.' :: places := by
    rw [List.dropWhile_append_of_pos hwhole]
    rfl
  obtain ⟨c, more, rfl⟩ := List.exists_cons_of_ne_nil hne
  have hc : c ≠ '-' := by
    rintro rfl
    exact absurd (hwhole '-' List.mem_cons_self) (by decide)
  have hsign : (c == '-') = false := beq_eq_false_iff_ne.2 hc
  rw [List.cons_append] at htake hdrop
  cases negative <;> simp [pointedFloat, hsign, htake, hdrop]

theorem isPointed_floatLiteral {x : Float} (h : Decimal.isFinite x = true) :
    IsPointed (floatLiteral x) := by
  unfold floatLiteral
  split
  · exact Decimal.fixed_one_pointed h
  · rename_i hwhole
    exact Decimal.render_plain_pointed h (Option.not_isSome_iff_eq_none.1 hwhole)

theorem isOrdinary_digit {c : Char} (h : isDigit c = true) : Script.isOrdinary c = true :=
  Script.isOrdinary_part (by simp [Text.isIdentifierPart, h])

theorem kept_pointed {text : List Char} (h : IsPointed text) : Kept text := by
  obtain ⟨negative, whole, places, rfl, hwhole, -, hplaces, -⟩ := h
  refine Script.kept_chars fun c hc => ?_
  simp only [List.mem_append, List.mem_cons] at hc
  rcases hc with (hsign | hc) | rfl | hc
  · cases negative with
    | false => cases hsign
    | true =>
      rw [List.mem_singleton.1 hsign]
      decide
  · exact isOrdinary_digit (hwhole c hc)
  · decide
  · exact isOrdinary_digit (hplaces c hc)

theorem kept_integerChars (i : Int) : Kept (Json.integerChars i) := by
  refine Script.kept_chars fun c hc => ?_
  have hdigits := Decimal.areDigits_toDigits i.natAbs
  unfold Json.integerChars at hc
  split at hc
  · rcases List.mem_cons.1 hc with rfl | hc
    · decide
    · exact isOrdinary_digit (hdigits c hc)
  · exact isOrdinary_digit (hdigits c hc)

theorem kept_spaced {texts : List (List Char)} (h : ∀ text ∈ texts, Kept text) :
    Kept (spaced texts) := by
  induction texts using spaced.induct with
  | case1 => exact Script.kept_nil
  | case2 one => exact h one List.mem_cons_self
  | case3 one others hmore ih =>
    obtain ⟨hone, hothers⟩ := List.forall_mem_cons.1 h
    rw [spaced.eq_3 _ _ hmore]
    have hcomma : Kept [',', ' '] := Script.kept_chars (List.all_eq_true.1 rfl)
    exact hone.append (hcomma.append (ih hothers))

/-- The literal of a float is kept, also the name of one that is not finite. -/
theorem kept_floatLiteral (x : Float) : Kept (floatLiteral x) := by
  by_cases hfinite : Decimal.isFinite x = true
  · exact kept_pointed (isPointed_floatLiteral hfinite)
  · have hname : floatLiteral x ∈ ["NaN".toList, "-inf".toList, "inf".toList] := by
      unfold Decimal.isFinite at hfinite
      unfold floatLiteral Decimal.toInt? Decimal.Layout.render
      cases hbinary : Decimal.Binary.ofFloat x with
      | notANumber => simp
      | infinite negative => cases negative <;> simp
      | finite => exact absurd (by rw [hbinary]) hfinite
    simp only [List.mem_cons, List.not_mem_nil, or_false] at hname
    rcases hname with hname | hname | hname <;> rw [hname] <;>
      exact Script.kept_chars (List.all_eq_true.1 rfl)

mutual

/-- **The literal of a value** is kept as it is. -/
theorem kept_literalChars (v : Value) : Kept v.literalChars := by
  cases v with
  | absent => exact Script.kept_chars (List.all_eq_true.1 rfl)
  | bool b => cases b <;> exact Script.kept_chars (List.all_eq_true.1 rfl)
  | int i => exact kept_integerChars i.toInt
  | float x => exact kept_floatLiteral x
  | string s => exact Script.kept_quoted (Script.inside_flatMap spelling_literalEscape _)
  | list items =>
    have hitems : Kept (spaced (literals items)) := kept_spaced (kept_literals items)
    exact ((Script.kept_char (by decide)).append hitems).append (Script.kept_char (by decide))

theorem kept_literals (items : List Value) : ∀ text ∈ literals items, Kept text := by
  cases items with
  | nil => nofun
  | cons v rest =>
    rw [literals]
    exact List.forall_mem_cons.2 ⟨kept_literalChars v, kept_literals rest⟩

end

/-! ### Tokens -/

/-- A text is scanned into these tokens, whatever ends it. -/
structure Scans (text : List Char) (tokens : List Lexeme) : Prop where
  ne_nil : tokens ≠ []
  /-- An opening mark in front of the text is one. -/
  start : ∃ c more, text = c :: more ∧ c ≠ '*'
  scanned {rest : List Char} : Closes rest →
    Scanned (.inLine 1 true (text ++ rest)) tokens (.inLine 1 false rest)

theorem closes_cons {c : Char} (h : c = ',' ∨ c = ')' ∨ c = ']') (rest : List Char) :
    Closes (c :: rest) := by
  intro d hd
  cases hd
  exact h

theorem spacedTokens_ne_nil {item : List Lexeme} (h : item ≠ []) (others : List (List Lexeme)) :
    spacedTokens 1 (item :: others) ≠ [] := by
  cases others with
  | nil => exact h
  | cons next others => simp [spacedTokens]

/-- **Items** with commas between them. Behind the last one no operand is expected. -/
theorem scanned_spaced {all : List (List Char × List Lexeme)}
    (h : ∀ item ∈ all, Scans item.1 item.2) {rest : List Char} (hrest : Closes rest) :
    Scanned (.inLine 1 true (spaced (all.map (·.1)) ++ rest)) (spacedTokens 1 (all.map (·.2)))
      (.inLine 1 all.isEmpty rest) := by
  induction all with
  | nil => exact .done _
  | cons item others ih =>
    obtain ⟨hitem, hothers⟩ := List.forall_mem_cons.1 h
    -- a comma behind an item ends it, and the space behind the comma is skipped
    cases others with
    | nil => exact hitem.scanned hrest
    | cons next others =>
      have hne := spacedTokens_ne_nil (hothers _ List.mem_cons_self).ne_nil (others.map (·.2))
      have hmore := ih hothers
      simp only [List.map_cons, spaced, spacedTokens, List.append_assoc, List.cons_append]
        at hmore ⊢
      refine (hitem.scanned (closes_cons (.inl rfl) _)).append ?_
      refine (Script.scanned_mark (by decide) (by simp) 1 false).append ?_
      exact Scanned.space hne hmore

/-- The first item is no star, and neither is the mark that closes an empty row. -/
theorem spaced_ne_star {all : List (List Char × List Lexeme)}
    (h : ∀ item ∈ all, Scans item.1 item.2) {rest : List Char} (hrest : Closes rest) :
    (spaced (all.map (·.1)) ++ rest).head? ≠ some '*' := by
  cases all with
  | nil => exact hrest.ne_star
  | cons item others =>
    obtain ⟨c, more, htext, hstar⟩ := (h item List.mem_cons_self).start
    have hhead : (spaced ((item :: others).map (·.1)) ++ rest).head? = some c := by
      cases others <;> simp [spaced, htext]
    rw [hhead]
    simpa using hstar

/-- The two kinds of parentheses around items. -/
inductive Encloses : Char → Char → Script.Mark → Script.Mark → Prop
  | round : Encloses '(' ')' .openParen .closeParen
  | square : Encloses '[' ']' .openBracket .closeBracket

/-- **Items** between an opening mark and the one that closes it. -/
theorem scanned_enclosed {all : List (List Char × List Lexeme)}
    (h : ∀ item ∈ all, Scans item.1 item.2) {first last : Char} {opening closing : Script.Mark}
    (hmarks : Encloses first last opening closing) {rest : List Char}
    (hrest : rest.head? ≠ some '*') (operand : Bool) :
    Scanned (.inLine 1 operand (first :: spaced (all.map (·.1)) ++ last :: rest))
      (⟨.mark opening, 1⟩ :: (spacedTokens 1 (all.map (·.2)) ++ [⟨.mark closing, 1⟩]))
      (.inLine 1 false rest) := by
  have hcloses : Closes (last :: rest) := closes_cons (by cases hmarks <;> simp) rest
  have hopen : (first, opening) ∈ Script.callMarks := by cases hmarks <;> decide
  have hclose : (last, closing) ∈ Script.callMarks := by cases hmarks <;> decide
  have hexpects : (Script.Token.mark opening).expectsOperand = true := by cases hmarks <;> rfl
  have hbehind : (Script.Token.mark closing).expectsOperand = false := by cases hmarks <;> rfl
  have hfirst := Script.scanned_mark hopen (spaced_ne_star h hcloses) 1 operand
  have hlast := Script.scanned_mark hclose hrest 1 all.isEmpty
  rw [hexpects] at hfirst
  rw [hbehind] at hlast
  exact hfirst.append ((scanned_spaced h hcloses).append hlast)

theorem scans_keyword (b : Bool) :
    Scans (Json.boolChars b) [⟨.keyword (if b then .yes else .no), 1⟩] where
  ne_nil := by simp
  start := by cases b <;> exact ⟨_, _, rfl, by decide⟩
  scanned {rest} hrest := by
    have hpart : ∀ c ∈ rest.head?, Text.isIdentifierPart c = false := fun c hc =>
      (hrest.head hc).2.2.2.2.2.2.2
    have hword : Script.Token.ofWord (Json.boolChars b) = .keyword (if b then .yes else .no) := by
      cases b <;> rfl
    have hchars : (∃ c more, Json.boolChars b = c :: more ∧ Text.isIdentifierStart c = true) ∧
        ∀ c ∈ Json.boolChars b, Text.isIdentifierPart c = true := by
      cases b <;> exact ⟨⟨_, _, rfl, rfl⟩, List.all_eq_true.1 rfl⟩
    cases b <;> exact Script.scanned_word hword (by simp) (by simp) hchars.1 hchars.2 hpart 1 true

/-- A number starts with its sign or with a digit. -/
theorem start_signed (negative : Bool) {row : List Char} (hrow : AreDigits row) (hne : row ≠ [])
    (tail : List Char) :
    ∃ c more, (if negative then ['-'] else []) ++ row ++ tail = c :: more ∧ c ≠ '*' := by
  cases negative with
  | true => exact ⟨'-', row ++ tail, rfl, by decide⟩
  | false =>
    obtain ⟨c, more, rfl⟩ := List.exists_cons_of_ne_nil hne
    refine ⟨c, more ++ tail, rfl, ?_⟩
    rintro rfl
    exact absurd (hrow '*' List.mem_cons_self) (by decide)

theorem scans_integer (i : Int64) : Scans (Json.integerChars i.toInt) [⟨.integer i, 1⟩] where
  ne_nil := by simp
  start := by
    have hwhole := Decimal.isWhole_toDigits i.toInt.natAbs
    have := start_signed (decide (i.toInt < 0)) hwhole.1 hwhole.ne_nil []
    rwa [List.append_nil, ← Script.integerChars_signed] at this
  scanned hrest := Script.scanned_integer hrest i 1

theorem scans_float {x : Float} (hfinite : Decimal.isFinite x = true) (hreads : ReadsAlike x) :
    Scans (floatLiteral x) [⟨.float x, 1⟩] := by
  obtain ⟨negative, whole, places, htext, hwhole, hne, hplaces, hne'⟩ :=
    isPointed_floatLiteral hfinite
  have hvalue : Script.decimalFloat negative whole places 0 = x := by
    rw [← pointedFloat_parts negative hwhole hne, ← htext]
    exact hreads
  refine ⟨by simp, ?_, fun {rest} hrest => ?_⟩
  · rw [htext]
    exact start_signed negative hwhole hne _
  · rw [htext, ← hvalue]
    exact Script.scanned_float hrest hwhole hne hplaces hne' 1

theorem scans_string (s : String) : Scans (stringLiteral s) [⟨.string s, 1⟩] where
  ne_nil := by simp
  start := ⟨_, _, rfl, by decide⟩
  scanned {rest} hrest := by
    have hquote : rest.head? ≠ some '"' := fun hquote =>
      (hrest.head hquote).2.2.2.2.2.2.1 rfl
    have := Script.scanned_string spelling_literalEscape s.toList hquote 1 true
    simpa [stringLiteral] using this

mutual

/-- **The literal of a value** is scanned into its tokens. -/
theorem scans_literalChars (v : Value) (h : Literate v.floats) : Scans v.literalChars v.tokens := by
  cases v with
  | absent =>
    refine ⟨by simp [tokens], ⟨_, _, rfl, by decide⟩, fun {rest} hrest => ?_⟩
    have hnone : ∀ item ∈ ([] : List (List Char × List Lexeme)), Scans item.1 item.2 := nofun
    exact scanned_enclosed hnone .round hrest.ne_star true
  | bool b => exact scans_keyword b
  | int i => exact scans_integer i
  | float x =>
    obtain ⟨hfinite, hreads⟩ := h x (by simp [floats])
    exact scans_float hfinite hreads
  | string s => exact scans_string s
  | list items =>
    have hitems := scans_literals items (by simpa only [floats] using h)
    refine ⟨by simp [tokens], ⟨_, _, rfl, by decide⟩, fun {rest} hrest => ?_⟩
    have := scanned_enclosed hitems .square hrest.ne_star true
    rw [literalChars, tokens, literals_eq_map, tokenRows_eq_map]
    simpa [Function.comp_def] using this

theorem scans_literals (items : List Value) (h : Literate (floatsOf items)) :
    ∀ item ∈ items.map fun v => (v.literalChars, v.tokens), Scans item.1 item.2 := by
  cases items with
  | nil => nofun
  | cons v rest =>
    simp only [Literate, floatsOf, List.mem_append] at h
    rw [List.map_cons]
    exact List.forall_mem_cons.2 ⟨scans_literalChars v fun x hx => h x (.inl hx),
      scans_literals rest fun x hx => h x (.inr hx)⟩

end

/-! ### Expressions -/

mutual

/-- **The tokens of a value** are read as its expression. -/
theorem isItem_expression (v : Value) : IsItem v.tokens v.expression := by
  cases v with
  | absent => exact Script.isItem_unit 1
  | bool b => exact Script.isItem_constant (.bool b) 1
  | int i => exact Script.isItem_constant (.integer i) 1
  | float x => exact Script.isItem_constant (.float x) 1
  | string s => exact Script.isItem_constant (.string s) 1
  | list items =>
    have := Script.isItem_array (isItem_expressions items) 1
    rw [tokens, expression, tokenRows_eq_map, expressions_eq_map]
    simpa [Function.comp_def] using this

theorem isItem_expressions (items : List Value) :
    ∀ item ∈ items.map fun v => (v.tokens, v.expression), IsItem item.1 item.2 := by
  cases items with
  | nil => nofun
  | cons v rest =>
    rw [List.map_cons]
    exact List.forall_mem_cons.2 ⟨isItem_expression v, isItem_expressions rest⟩

end

/-! ### Values of expressions -/

section

variable {σ : Type} {host : Script.Host σ} {functions : List Script.Function} {calls : Nat}
  {m : Script.Machine σ}

mutual

/-- **The expression of a value** has this value, and no effect. -/
theorem evaluate_expression (v : Value) {n : Nat} (hn : v.tokens.length ≤ n) :
    Script.evaluate host functions n calls v.expression m = (.ok v.toScript, m) := by
  obtain ⟨n, rfl⟩ : ∃ k, n = k + 1 :=
    ⟨n - 1, by have := (isItem_expression v).length_pos; omega⟩
  cases v with
  | list items =>
    refine Script.evaluate_array (evaluateAll_expressions items ?_)
    simp [tokens] at hn
    omega
  | _ => exact Script.evaluate_literal host functions n calls m _

theorem evaluateAll_expressions (items : List Value) {n : Nat}
    (hn : (spacedTokens 1 (tokenRows items)).length < n) :
    Script.evaluateAll host functions n calls (expressions items) m =
      (.ok (toScripts items), m) := by
  obtain ⟨n, rfl⟩ : ∃ k, n = k + 1 := ⟨n - 1, by omega⟩
  -- one step is taken at each item, and each item has a token
  cases items with
  | nil => exact Script.evaluateAll_nil host functions n calls m
  | cons v rest =>
    have hitem : IsItem (v.tokens, v.expression).1 (v.tokens, v.expression).2 :=
      isItem_expression v
    have hlength := hitem.length_spaced (isItem_expressions rest) 1
    simp [Function.comp_def, ← tokenRows_eq_map] at hlength
    rw [tokenRows] at hn
    exact Script.evaluateAll_cons (evaluate_expression v (by omega))
      (evaluateAll_expressions rest (by omega))

end

end

end Value

end VectorScene.Command
