import VectorScene.Json.Document
import VectorScene.Proofs.Decimal.Shapes
import VectorScene.Proofs.Script.Preparing
import VectorScene.Script.Scan

/-!
# The tokens of literals

What follows a literal or a name tells where it ends, so the pieces of a line are scanned one after
another, each on its own.

## Main definitions

* `Scan.inLine`: a scan of what is left of a line, outside of templates
* `Scanned`: the tokens from one scan up to another

## Main results

* `Scanned.lexemesFrom`: the tokens of a whole text begin with those of its front
* `scanned_mark`, `scanned_word`, `scanned_string`: marks, words and strings
* `scanned_integer`, `scanned_float`: numbers
-/

namespace VectorScene.Script

open Decimal (AreDigits areDigits_cons isDigit natOfDecimal)

/-! ### Pieces of a scan -/

/-- A scan of what is left of a line, outside of templates. -/
def Scan.inLine (line : Nat) (operand : Bool) (text : List Char) : Scan :=
  { rest := text, line, insets := [], operand }

/-- These tokens are scanned from the one scan up to the other. -/
inductive Scanned : Scan → List Lexeme → Scan → Prop
  | done (s : Scan) : Scanned s [] s
  | next {s s' s'' : Scan} {first rest : List Lexeme} : s.next = (first, some s') →
    s'.rest.length < s.rest.length → Scanned s' rest s'' → Scanned s (first ++ rest) s''

section Scanned

variable {s s' s'' : Scan} {all all' : List Lexeme}

theorem Scanned.append (h : Scanned s all s') (h' : Scanned s' all' s'') :
    Scanned s (all ++ all') s'' := by
  induction h with
  | done => exact h'
  | next hnext hless _ ih =>
    rw [List.append_assoc]
    exact .next hnext hless (ih h')

/-- One token. -/
theorem Scanned.one {token : Token} {line : Nat} (h : s.next = ([⟨token, line⟩], some s'))
    (hless : s'.rest.length < s.rest.length) : Scanned s [⟨token, line⟩] s' := by
  simpa using Scanned.next h hless (.done s')

/-- **The tokens of a text** begin with those of its front. -/
theorem Scanned.lexemesFrom (h : Scanned s all s') {steps : Nat} (hsteps : s.rest.length < steps) :
    ∃ left, s'.rest.length < left ∧
      Script.lexemesFrom steps s = all ++ Script.lexemesFrom left s' := by
  induction h generalizing steps with
  | done => exact ⟨steps, hsteps, rfl⟩
  | next hnext hless _ ih =>
    obtain ⟨steps, rfl⟩ : ∃ n, steps = n + 1 := ⟨steps - 1, by omega⟩
    obtain ⟨left, hleft, heq⟩ := ih (show _ < steps by omega)
    refine ⟨left, hleft, ?_⟩
    rw [Script.lexemesFrom, hnext]
    simp only [heq, List.append_assoc]

end Scanned

/-! ### The next token -/

section Next

variable {c : Char} {line : Nat} {operand : Bool} {rest : List Char}

theorem skipGap_code (hblank : Text.isBlank c = false) (hslash : c ≠ '/') (line : Nat)
    (rest : List Char) : skipGap line .blank (c :: rest) = (line, c :: rest) := by
  have hbreak : c ≠ '\n' := by
    rintro rfl
    cases hblank
  rw [skipGap]
  · simp [hbreak, hblank]
  all_goals simp [hslash]

theorem skipGap_space (line : Nat) (rest : List Char) :
    skipGap line .blank (' ' :: rest) = skipGap line .blank rest := rfl

/-- A space in front of a token is skipped. -/
theorem Scanned.space {all : List Lexeme} {s : Scan} (hne : all ≠ [])
    (h : Scanned (.inLine line operand rest) all s) :
    Scanned (.inLine line operand (' ' :: rest)) all s := by
  cases h with
  | done => exact absurd rfl hne
  | next hnext hless hmore =>
    have hsame : (Scan.inLine line operand (' ' :: rest)).next =
        (Scan.inLine line operand rest).next := by
      unfold Scan.next
      simp only [Scan.inLine, skipGap_space]
      rfl
    refine .next (hsame.trans hnext) (Nat.lt_trans hless ?_) hmore
    exact Nat.lt_succ_self _

theorem behind_of {token : Token} (hunusable : token ≠ .unusable) (hfinish : token ≠ .finish)
    (s : Scan) (line : Nat) (rest : List Char) : s.behind token line rest =
      ([⟨token, line⟩], some { s with rest, line, operand := token.expectsOperand }) := by
  cases token <;> first | rfl | contradiction

end Next

/-! ### Marks -/

/-- The marks that stand in calls and in literals. -/
def callMarks : List (Char × Mark) :=
  [('(', .openParen), (')', .closeParen), ('[', .openBracket), (']', .closeBracket), (',', .comma),
    (';', .semicolon)]

theorem symbols_callMarks {c : Char} {m : Mark} (h : (c, m) ∈ callMarks) {rest : List Char}
    (hrest : rest.head? ≠ some '*') :
    symbols.find? (fun entry => entry.1.isPrefixOf (c :: rest)) = some ([c], .mark m) := by
  have hstar : ['*'].isPrefixOf rest = false := by
    cases rest with
    | nil => rfl
    | cons d rest =>
      have hd : d ≠ '*' := by simpa using hrest
      simp [List.isPrefixOf, hd.symm]
  simp only [callMarks, List.mem_cons, Prod.mk.injEq, List.not_mem_nil, or_false] at h
  rcases h with ⟨rfl, rfl⟩ | ⟨rfl, rfl⟩ | ⟨rfl, rfl⟩ | ⟨rfl, rfl⟩ | ⟨rfl, rfl⟩ | ⟨rfl, rfl⟩ <;>
    simp [symbols, List.find?, List.isPrefixOf, hstar]

/-- **A mark.** -/
theorem scanned_mark {c : Char} {m : Mark} (h : (c, m) ∈ callMarks) {rest : List Char}
    (hrest : rest.head? ≠ some '*') (line : Nat) (operand : Bool) :
    Scanned (.inLine line operand (c :: rest)) [⟨.mark m, line⟩]
      (.inLine line (Token.mark m).expectsOperand rest) := by
  have hsymbol := symbols_callMarks h hrest
  have hchar : ∀ e ∈ callMarks, Text.isBlank e.1 = false ∧ e.1 ≠ '/' ∧ isDigit e.1 = false ∧
      e.1 ≠ '-' ∧ Text.isIdentifierStart e.1 = false ∧ e.1 ≠ '"' ∧ e.1 ≠ '\'' ∧ e.1 ≠ '\x60' ∧
      e.2 ≠ .openBrace ∧ e.2 ≠ .openMap ∧ e.2 ≠ .closeBrace := by decide
  obtain ⟨hblank, hslash, hdigit, hminus, hstart, hquote, hsingle, htick, hbrace, hmap, hclose⟩ :=
    hchar _ h
  refine .one ?_ (Nat.lt_succ_self _)
  unfold Scan.next
  simp only [Scan.inLine, skipGap_code hblank hslash, hdigit, hminus, hstart, hquote, hsingle,
    htick, Bool.false_eq_true, false_and, if_false, Scan.symbol, hsymbol]
  cases m <;> rfl

/-! ### Words -/

/-- What starts a word starts nothing else. -/
theorem start_of_word {c : Char} (h : Text.isIdentifierStart c = true) :
    Text.isBlank c = false ∧ c ≠ '/' ∧ isDigit c = false ∧ c ≠ '-' := by
  have hcode : 65 ≤ c.toNat ∧ c.toNat ≤ 122 := by
    simp only [Text.isIdentifierStart, Bool.or_eq_true, Bool.and_eq_true, decide_eq_true_eq,
      beq_iff_eq, Char.le_def, UInt32.le_iff_toNat_le] at h
    rcases h with (h | h) | rfl
    · exact ⟨Nat.le_trans (by decide) h.1, h.2⟩
    · exact ⟨h.1, Nat.le_trans h.2 (by decide)⟩
    · decide
  have hne : ∀ d : Char, d.toNat < 65 → c ≠ d := by
    rintro d hd rfl
    omega
  refine ⟨?_, hne _ (by decide), ?_, hne _ (by decide)⟩
  · simp only [Text.isBlank, Bool.or_eq_false_iff, Bool.and_eq_false_iff, decide_eq_false_iff_not,
      beq_eq_false_iff_ne]
    omega
  · have hnine : ¬c ≤ '9' := by
      rw [Char.le_def, UInt32.le_iff_toNat_le]
      exact Nat.not_le_of_lt (Nat.lt_of_lt_of_le (by decide) hcode.1)
    simp [isDigit, hnine]

/-- A word ends at what is no part of one. -/
theorem next_word {word : List Char}
    (hstart : ∃ c more, word = c :: more ∧ Text.isIdentifierStart c = true)
    (hparts : ∀ c ∈ word, Text.isIdentifierPart c = true) {rest : List Char}
    (hrest : ∀ c ∈ rest.head?, Text.isIdentifierPart c = false) (line : Nat) (operand : Bool) :
    (Scan.inLine line operand (word ++ rest)).next =
      (Scan.inLine line operand (word ++ rest)).behind (Token.ofWord word) line rest := by
  have htake : (word ++ rest).takeWhile Text.isIdentifierPart = word := by
    rw [List.takeWhile_append_of_pos hparts]
    cases rest with
    | nil => simp
    | cons d rest => simp [hrest d rfl]
  have hdrop : (word ++ rest).dropWhile Text.isIdentifierPart = rest := by
    rw [List.dropWhile_append_of_pos hparts]
    cases rest with
    | nil => rfl
    | cons d rest => simp [hrest d rfl]
  obtain ⟨c, more, rfl, hc⟩ := hstart
  obtain ⟨hblank, hslash, hdigit, hminus⟩ := start_of_word hc
  unfold Scan.next
  rw [List.cons_append] at htake hdrop ⊢
  simp only [Scan.inLine, skipGap_code hblank hslash, hdigit, hminus, hc, Bool.false_eq_true,
    false_and, if_false, if_true, htake, hdrop]

/-- **A word** with a meaning. -/
theorem scanned_word {word : List Char} {token : Token} (hword : Token.ofWord word = token)
    (hunusable : token ≠ .unusable) (hfinish : token ≠ .finish)
    (hstart : ∃ c more, word = c :: more ∧ Text.isIdentifierStart c = true)
    (hparts : ∀ c ∈ word, Text.isIdentifierPart c = true) {rest : List Char}
    (hrest : ∀ c ∈ rest.head?, Text.isIdentifierPart c = false) (line : Nat) (operand : Bool) :
    Scanned (.inLine line operand (word ++ rest)) [⟨token, line⟩]
      (.inLine line token.expectsOperand rest) := by
  refine .one ((next_word hstart hparts hrest line operand).trans ?_) ?_
  · rw [hword]
    exact behind_of hunusable hfinish _ line rest
  · obtain ⟨c, more, rfl, -⟩ := hstart
    simp only [Scan.inLine, List.length_append, List.length_cons]
    omega

/-! ### Strings -/

/-- How a character is spelled between double quotes. -/
inductive Spelling : Char → List Char → Prop
  | plain {c : Char} : c ≠ '"' → c ≠ '\\' → c ≠ '\n' → Spelling c [c]
  | escaped {c d : Char} : escape '"' d = some c → Spelling c ['\\', d]

section Strings

variable {spell : Char → List Char} (h : ∀ c, Spelling c (spell c))

include h

theorem inside_flatMap (chars : List Char) : Inside (chars.flatMap spell) := by
  induction chars with
  | nil => exact .nil
  | cons c rest ih =>
    rw [List.flatMap_cons]
    refine .append ?_ ih
    have hc := h c
    generalize spell c = text at hc ⊢
    cases hc with
    | plain hquote hslash _ => exact .plain hslash hquote .nil
    | escaped _ => exact .escaped _ .nil

/-- What is spelled stays on one line. -/
theorem no_break_flatMap (chars : List Char) : '\n' ∉ chars.flatMap spell := by
  rw [List.mem_flatMap]
  rintro ⟨c, -, hmem⟩
  have hc := h c
  generalize spell c = text at hc hmem
  cases hc with
  | plain _ _ hbreak => exact hbreak (List.mem_singleton.1 hmem).symm
  | @escaped d hd =>
    obtain rfl : d = '\n' := by simpa [eq_comm] using hmem
    cases hd

theorem quotedText_flatMap (chars : List Char) {rest : List Char} (hrest : rest.head? ≠ some '"') :
    quotedText '"' (chars.flatMap spell ++ '"' :: rest) = some (chars, rest) := by
  induction chars with
  | nil =>
    rw [List.flatMap_nil, List.nil_append]
    unfold quotedText
    cases rest with
    | nil => simp
    | cons d rest =>
      have hd : d ≠ '"' := by simpa using hrest
      simp [hd]
  | cons c chars ih =>
    rw [List.flatMap_cons, List.append_assoc]
    generalize chars.flatMap spell ++ '"' :: rest = tail at ih ⊢
    have hc := h c
    generalize spell c = text at hc ⊢
    cases hc with
    | plain hquote hslash hbreak =>
      rw [List.singleton_append, quotedText.eq_def]
      simp [hquote, hslash, hbreak, ih, push?]
    | @escaped d hd =>
      -- no escape of one letter is an escape by number
      have hnumber : d ≠ 'x' ∧ d ≠ 'u' ∧ d ≠ 'U' := by
        refine ⟨?_, ?_, ?_⟩ <;> rintro rfl <;> cases hd
      rw [List.cons_append, List.singleton_append, quotedText.eq_def]
      simp [hd, ih, push?, hnumber]

/-- **A string.** -/
theorem scanned_string (chars : List Char) {rest : List Char} (hrest : rest.head? ≠ some '"')
    (line : Nat) (operand : Bool) :
    Scanned (.inLine line operand ('"' :: chars.flatMap spell ++ '"' :: rest))
      [⟨.string (String.ofList chars), line⟩] (.inLine line false rest) := by
  have hquoted := quotedText_flatMap h chars hrest
  have hstart : Text.isBlank '"' = false ∧ isDigit '"' = false ∧
      Text.isIdentifierStart '"' = false := by decide
  refine .one ?_ (by simp only [Scan.inLine, List.length_append, List.length_cons]; omega)
  unfold Scan.next
  rw [List.cons_append]
  simp [Scan.inLine, skipGap_code hstart.1, hstart.2, hquoted, Scan.literal]
  rfl

end Strings

/-! ### Numbers -/

/-- What follows an item of a list ends it: a mark, or nothing. -/
def Closes (rest : List Char) : Prop := ∀ c ∈ rest.head?, c = ',' ∨ c = ')' ∨ c = ']'

section Numbers

variable {rest : List Char} (hrest : Closes rest)

include hrest

/-- What ends an item is part of no number, and no text starts with it. -/
theorem Closes.head {c : Char} (hc : c ∈ rest.head?) :
    isDigit c = false ∧ c ≠ '_' ∧ c ≠ '.' ∧ c ≠ 'e' ∧ base? c = none ∧ c ≠ '*' ∧ c ≠ '"' ∧
      Text.isIdentifierPart c = false := by
  rcases hrest c hc with rfl | rfl | rfl <;> decide

theorem Closes.ne_star : rest.head? ≠ some '*' := by
  intro hstar
  have := (hrest.head hstar).2.2.2.2.2.1
  contradiction

theorem places_closes : places rest = (none, rest) := by
  cases rest with
  | nil => rfl
  | cons c rest =>
    have hpoint := (hrest.head rfl).2.2.1
    rw [places.eq_def]
    split
    · rename_i heq
      exact absurd (List.cons.inj heq).1 hpoint
    · rfl

theorem exponent_closes : exponent rest = (none, rest) := by
  cases rest with
  | nil => rfl
  | cons c rest =>
    have hletter := (hrest.head rfl).2.2.2.1
    rw [exponent.eq_def]
    split
    · rename_i heq
      exact absurd (List.cons.inj heq).1 hletter
    · rfl

omit hrest in
theorem digitSpan_digits {row : List Char} (hrow : AreDigits row) (rest : List Char)
    (hend : ∀ c ∈ rest.head?, isDigit c = false ∧ c ≠ '_') :
    digitSpan isDigit (row ++ rest) = (row, rest) := by
  have hin : ∀ c ∈ row, (isDigit c || c == '_') = true := fun c hc => by simp [hrow c hc]
  have hkeep : row.filter (· != '_') = row := by
    refine List.filter_eq_self.2 fun c hc => bne_iff_ne.2 ?_
    rintro rfl
    exact absurd (hrow _ hc) (by decide)
  simp only [digitSpan]
  rw [List.takeWhile_append_of_pos hin, List.dropWhile_append_of_pos hin]
  cases rest with
  | nil => simp [hkeep]
  | cons c rest =>
    obtain ⟨hdigit, hscore⟩ := hend c rfl
    simp [hdigit, hscore, hkeep]

theorem decimal_digits {row : List Char} (hrow : AreDigits row) (negative : Bool) :
    decimal negative (row ++ rest) =
      (.ofInteger (if negative then -natOfDecimal row else natOfDecimal row)
        (decimalFloat negative row [] 0), rest) := by
  have hspan := digitSpan_digits hrow rest fun c hc =>
    ⟨(hrest.head hc).1, (hrest.head hc).2.1⟩
  simp [decimal, hspan, places_closes hrest, exponent_closes hrest]

theorem decimal_pointed {whole fraction : List Char} (hwhole : AreDigits whole)
    (hfraction : AreDigits fraction) (hne : fraction ≠ []) (negative : Bool) :
    decimal negative (whole ++ '.' :: fraction ++ rest) =
      (.float (decimalFloat negative whole fraction 0), rest) := by
  have hspan := digitSpan_digits hwhole ('.' :: (fraction ++ rest)) fun c hc => by
    cases hc
    decide
  have hplaces : places ('.' :: (fraction ++ rest)) = (some fraction, rest) := by
    have := digitSpan_digits hfraction rest fun c hc =>
      ⟨(hrest.head hc).1, (hrest.head hc).2.1⟩
    cases fraction with
    | nil => exact absurd rfl hne
    | cons c fraction =>
      rw [List.cons_append] at this ⊢
      simp [places, (areDigits_cons.1 hfraction).1, this]
  rw [List.append_assoc, List.cons_append]
  simp [decimal, hspan, hplaces, exponent_closes hrest]

omit hrest in
/-- A number in base ten is one as long as no letter stands behind its first digit. -/
theorem numeral_decimal {c : Char} (h : ∀ d ∈ rest.head?, base? d = none) (negative : Bool) :
    numeral negative (c :: rest) = decimal negative (c :: rest) := by
  rw [numeral.eq_def]
  split
  · rename_i d rest' heq
    obtain ⟨-, rfl⟩ := List.cons.inj heq
    rw [h d rfl]
  · rfl

omit hrest in
theorem base_digit {c : Char} (h : isDigit c = true) : base? c = none := by
  unfold base?
  split <;> first | rfl | cases h

omit hrest in
/-- A number with its sign. -/
theorem scanned_numeral {c : Char} {row : List Char} {token : Token} {negative : Bool}
    (hc : isDigit c = true) (hunusable : token ≠ .unusable) (hfinish : token ≠ .finish)
    (h : numeral negative (c :: row) = (token, rest)) (hless : rest.length ≤ row.length)
    (line : Nat) :
    Scanned (.inLine line true ((if negative then ['-'] else []) ++ c :: row)) [⟨token, line⟩]
      (.inLine line token.expectsOperand rest) := by
  have hdigit : Text.isBlank c = false ∧ c ≠ '/' := by
    constructor
    · have hcode : 48 ≤ c.toNat ∧ c.toNat ≤ 57 := by
        simpa [isDigit, Char.le_def, UInt32.le_iff_toNat_le] using hc
      simp only [Text.isBlank, Bool.or_eq_false_iff, Bool.and_eq_false_iff,
        decide_eq_false_iff_not, beq_eq_false_iff_ne]
      omega
    · rintro rfl
      cases hc
  have hminus : Text.isBlank '-' = false ∧ isDigit '-' = false := by decide
  refine .one ?_ (by cases negative <;> simp [Scan.inLine] <;> omega)
  unfold Scan.next
  cases negative with
  | false =>
    simp only [Scan.inLine, Bool.false_eq_true, if_false, List.nil_append,
      skipGap_code hdigit.1 hdigit.2, hc, if_true, h]
    exact behind_of hunusable hfinish _ line rest
  | true =>
    -- an operand is expected, so the minus is the sign of a number
    simp only [Scan.inLine, if_true, List.cons_append, List.nil_append,
      skipGap_code hminus.1 (show '-' ≠ '/' by decide), hminus.2, Bool.false_eq_true, if_false,
      List.head?_cons, Option.any_some, hc, and_self, h]
    exact behind_of hunusable hfinish _ line rest

omit hrest in
theorem integerChars_signed (i : Int) : Json.integerChars i =
    (if decide (i < 0) then ['-'] else []) ++ Nat.toDigits 10 i.natAbs := by
  unfold Json.integerChars
  by_cases hneg : i < 0 <;> simp [hneg]

/-- **An integer.** -/
theorem scanned_integer (i : Int64) (line : Nat) :
    Scanned (.inLine line true (Json.integerChars i.toInt ++ rest)) [⟨.integer i, line⟩]
      (.inLine line false rest) := by
  obtain ⟨c, row, hdigits⟩ := List.exists_cons_of_ne_nil
    (Decimal.isWhole_toDigits i.toInt.natAbs).ne_nil
  have hare := Decimal.areDigits_toDigits i.toInt.natAbs
  rw [hdigits] at hare
  obtain ⟨hc, hrow⟩ := Decimal.areDigits_cons.1 hare
  rw [integerChars_signed, hdigits, List.append_assoc, List.cons_append]
  refine scanned_numeral hc (by simp) (by simp) ?_ (by simp) line
  rw [numeral_decimal, ← List.cons_append, decimal_digits hrest hare, ← hdigits,
    Decimal.natOfDecimal_toDigits]
  · have hvalue : (if decide (i.toInt < 0) = true then -((i.toInt.natAbs : Nat) : Int)
        else (i.toInt.natAbs : Nat)) = i.toInt := by
      split
      · rename_i h
        have := of_decide_eq_true h
        omega
      · rename_i h
        have := of_decide_eq_false (Bool.not_eq_true _ ▸ h)
        omega
    rw [hvalue, Token.ofInteger, Decimal.toInt64?_toInt]
  · intro d hd
    cases row with
    | nil => exact (hrest.head hd).2.2.2.2.1
    | cons r row =>
      cases hd
      exact base_digit (Decimal.areDigits_cons.1 hrow).1

/-- **A float** of which the places are written. -/
theorem scanned_float {negative : Bool} {whole fraction : List Char} (hwhole : AreDigits whole)
    (hne : whole ≠ []) (hfraction : AreDigits fraction) (hne' : fraction ≠ []) (line : Nat) :
    Scanned (.inLine line true
        ((if negative then ['-'] else []) ++ whole ++ '.' :: fraction ++ rest))
      [⟨.float (decimalFloat negative whole fraction 0), line⟩] (.inLine line false rest) := by
  have hdecimal := decimal_pointed hrest hwhole hfraction hne' negative
  obtain ⟨c, row, rfl⟩ := List.exists_cons_of_ne_nil hne
  obtain ⟨hc, hrow⟩ := Decimal.areDigits_cons.1 hwhole
  have htext : (if negative then ['-'] else []) ++ c :: row ++ '.' :: fraction ++ rest =
      (if negative then ['-'] else []) ++ c :: (row ++ '.' :: fraction ++ rest) := by
    simp
  rw [htext]
  refine scanned_numeral hc (by simp) (by simp) ?_ (by simp; omega) line
  rw [numeral_decimal]
  · simpa using hdecimal
  · intro d hd
    cases row with
    | nil =>
      cases hd
      decide
    | cons r row =>
      cases hd
      exact base_digit (Decimal.areDigits_cons.1 hrow).1

end Numbers

end VectorScene.Script
