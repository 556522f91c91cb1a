import VectorScene.Proofs.Script.Preparing

/-!
# Pieces of a script

A script is read from left to right as a row of pieces: line feeds, literals that are closed on
their line, comments and literals that stay open, which run to the end of their line, and other
characters. Whether a `#` starts a comment depends on what stands before it on the line. Every text
is read to its end.

A literal in which the quote is doubled, and a template with others inside, is read as several
literals with what stands between them. Block comments are read as if they were code.

## Main definitions

* `Piece`: the pieces
* `StartsComment`: a character that starts a comment
* `Reading`: the pieces that are read

## Main results

* `exists_reading`: every text is read
* `codeFrom_reading`: what stands on a line up to a literal
-/

namespace VectorScene.Script

/-! ### Reading -/

/-- A piece of a script. -/
inductive Piece where
  | newline
  | char (c : Char)
  /-- A literal with its quote and what stands inside. -/
  | literal (quote : Char) (body : List Char)
  /-- A literal that stays open, with its quote and what stands behind it on the line. -/
  | unclosed (quote : Char) (body : List Char)
  /-- A comment with its first character and the others on the line. -/
  | comment (c : Char) (body : List Char)
deriving DecidableEq, Repr

/-- The characters of a piece. -/
def Piece.chars : Piece → List Char
  | newline => ['\n']
  | char c => [c]
  | literal quote body => quote :: body ++ [quote]
  | unclosed quote body => quote :: body
  | comment c body => c :: body

/-- The text of pieces. -/
def textOf (pieces : List Piece) : List Char := pieces.flatMap Piece.chars

@[simp] theorem textOf_nil : textOf [] = [] := rfl

@[simp] theorem textOf_cons (piece : Piece) (rest : List Piece) :
    textOf (piece :: rest) = piece.chars ++ textOf rest := List.flatMap_cons

@[simp] theorem textOf_append (front back : List Piece) :
    textOf (front ++ back) = textOf front ++ textOf back := List.flatMap_append

/-- Outside of literals, two slashes start a comment, and so does a `#` that stands behind a blank
or behind nothing but blanks, unless it opens a map. What stands before the character on its line is
given, and the character behind it. -/
def StartsComment (line : List Char) (c : Char) (next : Option Char) : Prop :=
  (c = '/' ∧ next = some '/') ∨
    (c = '#' ∧ next ≠ some '\x7b' ∧ (line.all Text.isBlank ∨ line.getLast?.any Text.isAsciiBlank))

/-- A quote closes a literal somewhere in what stands behind the one that opens it. -/
def IsClosed (quote : Char) (text : List Char) : Prop :=
  ∃ body after, text = body ++ quote :: after ∧ Within quote body

/-- No piece, or a line feed first. -/
def EndsLine (pieces : List Piece) : Prop := pieces = [] ∨ ∃ more, pieces = .newline :: more

/-- Pieces that are read behind what stands before them on their line. -/
inductive Reading : List Char → List Piece → Prop
  | nil {line : List Char} : Reading line []
  | newline {line : List Char} {rest : List Piece} :
    Reading [] rest → Reading line (.newline :: rest)
  | char {line : List Char} {c : Char} {rest : List Piece} :
    c ≠ '\n' → isQuote c = false → ¬StartsComment line c (textOf rest).head? →
    Reading (line ++ [c]) rest → Reading line (.char c :: rest)
  | literal {line : List Char} {quote : Char} {body : List Char} {rest : List Piece} :
    isQuote quote = true → Within quote body → '\n' ∉ body →
    Reading (line ++ (Piece.literal quote body).chars) rest →
    Reading line (.literal quote body :: rest)
  | unclosed {line : List Char} {quote : Char} {body : List Char} {rest : List Piece} :
    isQuote quote = true → ¬IsClosed quote body → '\n' ∉ body → EndsLine rest →
    Reading (line ++ quote :: body) rest → Reading line (.unclosed quote body :: rest)
  | comment {line : List Char} {c : Char} {body : List Char} {rest : List Piece} :
    StartsComment line c (body ++ textOf rest).head? → '\n' ∉ body → EndsLine rest →
    Reading (line ++ c :: body) rest → Reading line (.comment c body :: rest)

theorem exists_line (text : List Char) : ∃ line after, text = line ++ after ∧ '\n' ∉ line ∧
    (after = [] ∨ ∃ rest, after = '\n' :: rest) := by
  induction text with
  | nil => exact ⟨[], [], rfl, by simp, .inl rfl⟩
  | cons c rest ih =>
    by_cases hbreak : c = '\n'
    · exact ⟨[], c :: rest, rfl, by simp, .inr ⟨rest, by rw [hbreak]⟩⟩
    · obtain ⟨line, after, rfl, hline, hafter⟩ := ih
      exact ⟨c :: line, after, rfl, by simp [Ne.symm hbreak, hline], hafter⟩

/-- What stands behind a line that has been read is read. -/
theorem exists_reading_behind {line after : List Char}
    (hafter : after = [] ∨ ∃ rest, after = '\n' :: rest)
    (h : ∀ rest, after = '\n' :: rest → ∃ pieces, Reading [] pieces ∧ textOf pieces = rest) :
    ∃ pieces, EndsLine pieces ∧ Reading line pieces ∧ textOf pieces = after := by
  obtain rfl | ⟨rest, rfl⟩ := hafter
  · exact ⟨[], .inl rfl, .nil, rfl⟩
  · obtain ⟨pieces, hreading, rfl⟩ := h rest rfl
    exact ⟨.newline :: pieces, .inr ⟨pieces, rfl⟩, .newline hreading, rfl⟩

/-- **Every text** is read. -/
theorem exists_reading (line text : List Char) :
    ∃ pieces, Reading line pieces ∧ textOf pieces = text := by
  -- the text gets shorter by a piece
  induction hlength : text.length using Nat.strongRecOn generalizing line text with
  | ind n ih =>
    subst hlength
    cases text with
    | nil => exact ⟨[], .nil, rfl⟩
    | cons c rest =>
      have hrest : rest.length < (c :: rest).length := Nat.lt_succ_self _
      by_cases hbreak : c = '\n'
      · obtain ⟨pieces, hreading, rfl⟩ := ih _ hrest [] rest rfl
        exact ⟨.newline :: pieces, .newline hreading, by rw [hbreak]; rfl⟩
      by_cases hquote : isQuote c = true
      · by_cases hclosed : ∃ body after, rest = body ++ c :: after ∧ Within c body ∧ '\n' ∉ body
        · obtain ⟨body, after, rfl, hbody, hline⟩ := hclosed
          obtain ⟨pieces, hreading, rfl⟩ := ih after.length (by simp; omega)
            (line ++ (Piece.literal c body).chars) after rfl
          exact ⟨.literal c body :: pieces, .literal hquote hbody hline hreading,
            by simp [Piece.chars]⟩
        · obtain ⟨body, after, rfl, hline, hafter⟩ := exists_line rest
          obtain ⟨pieces, hends, hreading, rfl⟩ := @exists_reading_behind (line ++ c :: body) after
            hafter fun more hmore => ih more.length (by simp [hmore]; omega) [] more rfl
          have hopen : ¬IsClosed c body := by
            rintro ⟨inside, outside, rfl, hinside⟩
            exact hclosed ⟨inside, outside ++ textOf pieces, by simp, hinside,
              fun hmem => hline (List.mem_append_left _ hmem)⟩
          exact ⟨.unclosed c body :: pieces, .unclosed hquote hopen hline hends hreading, rfl⟩
      by_cases hcomment : StartsComment line c rest.head?
      · obtain ⟨body, after, rfl, hline, hafter⟩ := exists_line rest
        obtain ⟨pieces, hends, hreading, rfl⟩ := @exists_reading_behind (line ++ c :: body) after
          hafter fun more hmore => ih more.length (by simp [hmore]; omega) [] more rfl
        exact ⟨.comment c body :: pieces, .comment hcomment hline hends hreading, rfl⟩
      · obtain ⟨pieces, hreading, rfl⟩ := ih _ hrest (line ++ [c]) rest rfl
        exact ⟨.char c :: pieces, .char hbreak (by simpa using hquote) hcomment hreading, rfl⟩

/-! ### What stands before a literal -/

theorem isQuote_iff {c : Char} : isQuote c = true ↔ c = '"' ∨ c = '\x60' ∨ c = '\'' := by
  simp [isQuote, or_assoc]

theorem ne_slash_of_quote {c : Char} (h : isQuote c = true) : c ≠ '\\' := by
  obtain rfl | rfl | rfl := isQuote_iff.1 h <;> decide

theorem ne_break_of_quote {c : Char} (h : isQuote c = true) : c ≠ '\n' ∧ c ≠ '\r' := by
  obtain rfl | rfl | rfl := isQuote_iff.1 h <;> decide

theorem not_blank_of_quote {c : Char} (h : isQuote c = true) : Text.isBlank c = false := by
  obtain rfl | rfl | rfl := isQuote_iff.1 h <;> decide

section Line

variable {line : List Char} {quote : Char} {body : List Char}

theorem codeFrom_literal (hquote : isQuote quote = true) (hbody : Within quote body)
    (before : Option Char) (blank : Bool) (rest : List Char) :
    codeFrom none before blank ((Piece.literal quote body).chars ++ rest) =
      (Piece.literal quote body).chars ++ codeFrom none (some quote) false rest := by
  have hwithin := codeFrom_within (ne_slash_of_quote hquote) hbody (some quote) false rest
  simp only [Piece.chars, List.cons_append, List.append_assoc, codeFrom_open _ _ _ hquote,
    List.nil_append, hwithin]

theorem codeFrom_char {before : Option Char} {blank : Bool} {c : Char} {rest : List Char}
    (hquote : isQuote c = false) (hbefore : before = line.getLast?)
    (hblank : blank = line.all Text.isBlank) (hcomment : ¬StartsComment line c rest.head?) :
    codeFrom none before blank (c :: rest) =
      c :: codeFrom none (some c) (blank && Text.isBlank c) rest := by
  subst hbefore hblank
  simp only [StartsComment, not_or] at hcomment
  obtain ⟨hslashes, hhash⟩ := hcomment
  exact codeFrom_outside (by simp [hquote]) hslashes hhash

/-- What is read before a literal on its line begins like the literal or with a piece before it. -/
theorem head?_before (pieces : List Piece) (back : List Piece) (rest : List Char) :
    (textOf (pieces ++ .literal quote body :: back)).head? =
      (textOf pieces ++ ((Piece.literal quote body).chars ++ rest)).head? := by
  rw [textOf_append, textOf_cons]
  cases textOf pieces <;> rfl

theorem not_endsLine {pieces : List Piece} (hline : .newline ∉ pieces) (back : List Piece) :
    ¬EndsLine (pieces ++ .literal quote body :: back) := by
  cases pieces with
  | nil =>
    rintro (hnil | ⟨more, hmore⟩)
    · cases hnil
    · cases hmore
  | cons first _ =>
    rintro (hnil | ⟨more, hmore⟩)
    · cases hnil
    · cases hmore
      exact absurd List.mem_cons_self hline

/-- **What stands on a line** up to a literal is no comment. -/
theorem codeFrom_reading {pieces back : List Piece}
    (h : Reading line (pieces ++ .literal quote body :: back)) (hline : .newline ∉ pieces)
    (rest : List Char) :
    codeFrom none line.getLast? (line.all Text.isBlank)
        (textOf pieces ++ ((Piece.literal quote body).chars ++ rest)) =
      textOf pieces ++
        ((Piece.literal quote body).chars ++ codeFrom none (some quote) false rest) := by
  induction pieces generalizing line with
  | nil =>
    cases h with
    | literal hquote hbody _ _ => exact codeFrom_literal hquote hbody _ _ rest
  | cons piece pieces ih =>
    simp only [List.mem_cons, not_or] at hline
    obtain ⟨hpiece, hline⟩ := hline
    rw [List.cons_append] at h
    cases h with
    | newline _ => exact absurd rfl hpiece
    | @char _ c _ _ hquote hcomment hmore =>
      have hnext := ih hmore hline
      rw [head?_before pieces back rest] at hcomment
      have hblank : (line ++ [c]).all Text.isBlank = (line.all Text.isBlank && Text.isBlank c) := by
        simp
      rw [List.getLast?_concat, hblank] at hnext
      rw [textOf_cons, List.append_assoc, Piece.chars, List.singleton_append,
        codeFrom_char hquote rfl rfl hcomment, hnext]
      rfl
    | @literal _ q b _ hquote hbody _ hmore =>
      have hnext := ih hmore hline
      have hlast : (line ++ (Piece.literal q b).chars).getLast? = some q := by
        rw [Piece.chars, ← List.append_assoc, List.getLast?_concat]
      have hblank : (line ++ (Piece.literal q b).chars).all Text.isBlank = false := by
        simp [Piece.chars, not_blank_of_quote hquote]
      rw [hlast, hblank] at hnext
      rw [textOf_cons, List.append_assoc, codeFrom_literal hquote hbody, hnext, List.append_assoc]
    -- other pieces run to the end of the line
    | unclosed _ _ _ hends _ => exact absurd hends (not_endsLine hline back)
    | comment _ _ hends _ => exact absurd hends (not_endsLine hline back)

end Line

end VectorScene.Script
