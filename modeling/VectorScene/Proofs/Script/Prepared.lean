import Mathlib.Data.List.DropRight
import Mathlib.Data.List.Forall2
import VectorScene.Proofs.Script.Bytes
import VectorScene.Proofs.Script.Literals
import VectorScene.Proofs.Text.Trimming

/-!
# Prepared lines

A prepared script has the lines of the script. Each of them is the beginning of its line with at
most a semicolon behind it: blanks at the end are gone, and the comment behind them if there is one.
A prepared script is left as it is when it is prepared again.

The second pass reads other characters behind each cut than the first one did. It cannot take one of
them for the second slash of a comment, and a `#` that is the last character before a cut is no
comment for it either, since what was cut did not open a map.

## Main definitions

* `Strips`: what is cut off a line
* `PreparesTo`: a line and what it is prepared to

## Main results

* `code_strips`: a line loses blanks and the one comment that is read on it
* `codeFrom_kept`: what was kept of a line stays code
* `lines_prepareChars`: the lines of a prepared script
* `prepareLines_prepareLines`: lines that are prepared twice
* `prepare_linewise`: a script and its prepared form, line by line
-/

namespace VectorScene.Text

/-! ### Lines -/

theorem break_not_mem_segments {text segment : List Char} (h : segment ∈ segments text) :
    '\n' ∉ segment := by
  induction text generalizing segment with
  | nil =>
    rw [segments, List.mem_singleton] at h
    simp [h]
  | cons c rest ih =>
    rw [segments] at h
    split at h
    · rcases List.mem_cons.1 h with rfl | h
      · simp
      · exact ih h
    · rename_i hbreak
      cases hrest : segments rest with
      | nil => exact absurd hrest (segments_ne_nil rest)
      | cons first others =>
        rw [hrest] at h ih
        rcases List.mem_cons.1 h with rfl | h
        · simp [Ne.symm hbreak, ih List.mem_cons_self]
        · exact ih (List.mem_cons_of_mem _ h)

theorem dropReturn_subset (line : List Char) : dropReturn line ⊆ line := by
  unfold dropReturn
  split
  · exact List.dropLast_subset line
  · exact List.Subset.refl line

/-- A line has no characters but those of a stretch between line feeds. -/
theorem exists_segment {texts : List (List Char)} {line : List Char}
    (h : line ∈ linesOfSegments texts) : ∃ segment ∈ texts, line ⊆ segment := by
  induction texts with
  | nil => cases h
  | cons first rest ih =>
    cases rest with
    | nil =>
      unfold linesOfSegments at h
      split at h
      · cases h
      · exact ⟨line, h, List.Subset.refl line⟩
    | cons next more =>
      rw [linesOfSegments_cons_cons] at h
      rcases List.mem_cons.1 h with rfl | h
      · exact ⟨first, List.mem_cons_self, dropReturn_subset first⟩
      · obtain ⟨segment, hmem, hsubset⟩ := ih h
        exact ⟨segment, List.mem_cons_of_mem _ hmem, hsubset⟩

/-- No line feed stands on a line. -/
theorem break_not_mem_lines {text line : List Char} (h : line ∈ lines text) : '\n' ∉ line := by
  obtain ⟨segment, hsegment, hsubset⟩ := exists_segment h
  exact fun hmem => break_not_mem_segments hsegment (hsubset hmem)

/-- Lines that are put together are the lines of the text, if no line ends in a carriage return. -/
theorem lines_flatMap {texts : List (List Char)}
    (h : ∀ line ∈ texts, '\n' ∉ line ∧ line.getLast? ≠ some '\r') :
    lines (texts.flatMap (· ++ ['\n'])) = texts := by
  induction texts with
  | nil => rfl
  | cons line rest ih =>
    obtain ⟨⟨hbreak, hreturn⟩, hrest⟩ := List.forall_mem_cons.1 h
    have hline : lines (line ++ ['\n']) = [line] := by
      rw [lines, segments_append_break, Script.segments_line hbreak]
      simp [segments, linesOfSegments, dropReturn, hreturn]
    rw [List.flatMap_cons, List.append_assoc, List.singleton_append, lines_append_break, hline,
      ih hrest, List.singleton_append]

end VectorScene.Text

namespace VectorScene.Script

/-! ### The comment of a line -/

/-- What starts a comment on a line is not kept, and nothing behind it. -/
theorem codeFrom_comment {line rest : List Char} {c : Char} (h : StartsComment line c rest.head?) :
    codeFrom none line.getLast? (line.all Text.isBlank) (c :: rest) = [] := by
  rcases h with hslashes | hhash
  · obtain ⟨rfl, -⟩ := id hslashes
    exact codeFrom_slashes _ _ _ (by decide) hslashes
  · exact codeFrom_hash hhash

/-- A literal that stays open runs to the end of its line. -/
theorem codeFrom_unclosed {quote : Char} {body : List Char} (h : ¬IsClosed quote body)
    (before : Option Char) (blank : Bool) :
    codeFrom (some quote) before blank body = body := by
  generalize hopen : some quote = inside
  fun_induction codeFrom inside before blank body with
  | case1 => rfl
  | case2 => rfl
  | case3 before blank q d rest ih =>
    cases hopen
    rw [ih ?_ rfl]
    rintro ⟨front, back, rfl, hfront⟩
    exact h ⟨'\\' :: d :: front, back, rfl, .escaped d hfront⟩
  | case4 before blank c rest q hslash ih =>
    cases hopen
    have hquote : c ≠ quote := by
      rintro rfl
      exact h ⟨[], rest, rfl, .nil⟩
    rw [if_neg hquote] at ih ⊢
    rw [ih ?_ rfl]
    rintro ⟨front, back, rfl, hfront⟩
    exact h ⟨c :: front, back, rfl, .plain hslash hquote hfront⟩
  | case5 | case6 | case7 | case8 => cases hopen

/-- The pieces that are comments. -/
def Piece.IsComment : Piece → Prop
  | .comment _ _ => True
  | _ => False

/-- **The comment** of a line is the last piece on it, and all before it is code. -/
theorem codeFrom_pieces {line : List Char} {pieces : List Piece} (h : Reading line pieces)
    (hline : .newline ∉ pieces) :
    ∃ front comments, pieces = front ++ comments ∧ (∀ piece ∈ front, ¬piece.IsComment) ∧
      (comments = [] ∨ ∃ c body, comments = [.comment c body] ∧
        StartsComment (line ++ textOf front) c body.head?) ∧
      codeFrom none line.getLast? (line.all Text.isBlank) (textOf pieces) = textOf front := by
  induction h with
  | nil => exact ⟨[], [], rfl, nofun, .inl rfl, rfl⟩
  | newline _ _ => exact absurd List.mem_cons_self hline
  | @char line c rest _ hquote hcomment _ ih =>
    obtain ⟨front, comments, rfl, hfront, hcomments, hcode⟩ :=
      ih fun hmem => hline (List.mem_cons_of_mem _ hmem)
    refine ⟨.char c :: front, comments, rfl, List.forall_mem_cons.2 ⟨id, hfront⟩,
      by simpa [Piece.chars] using hcomments, ?_⟩
    have hblank : (line ++ [c]).all Text.isBlank = (line.all Text.isBlank && Text.isBlank c) := by
      simp
    rw [List.getLast?_concat, hblank] at hcode
    rw [textOf_cons, Piece.chars, List.singleton_append, codeFrom_char hquote rfl rfl hcomment,
      hcode, textOf_cons]
    rfl
  | @literal line quote body rest hquote hbody _ _ ih =>
    obtain ⟨front, comments, rfl, hfront, hcomments, hcode⟩ :=
      ih fun hmem => hline (List.mem_cons_of_mem _ hmem)
    refine ⟨.literal quote body :: front, comments, rfl, List.forall_mem_cons.2 ⟨id, hfront⟩,
      by simpa [Piece.chars] using hcomments, ?_⟩
    have hlast : (line ++ (Piece.literal quote body).chars).getLast? = some quote := by
      rw [Piece.chars, ← List.append_assoc, List.getLast?_concat]
    have hblank : (line ++ (Piece.literal quote body).chars).all Text.isBlank = false := by
      simp [Piece.chars, not_blank_of_quote hquote]
    rw [hlast, hblank] at hcode
    rw [textOf_cons, codeFrom_literal hquote hbody, hcode, textOf_cons]
  | @unclosed line quote body rest hquote hopen _ hends _ _ =>
    -- nothing but a line feed stands behind the literal, and there is none
    obtain rfl | ⟨more, rfl⟩ := hends
    · refine ⟨[.unclosed quote body], [], rfl, by simp [Piece.IsComment], .inl rfl, ?_⟩
      have hall : textOf [.unclosed quote body] = quote :: body := by simp [Piece.chars]
      rw [hall, codeFrom_open _ _ _ hquote, codeFrom_unclosed hopen]
    · exact absurd (List.mem_cons_of_mem _ List.mem_cons_self) hline
  | @comment line c body rest hstarts _ hends _ _ =>
    obtain rfl | ⟨more, rfl⟩ := hends
    · simp only [textOf_nil, List.append_nil] at hstarts
      refine ⟨[], [.comment c body], rfl, nofun, .inr ⟨c, body, rfl, by simpa using hstarts⟩, ?_⟩
      simpa [Piece.chars] using codeFrom_comment hstarts
    · exact absurd (List.mem_cons_of_mem _ List.mem_cons_self) hline

/-- What is cut off a line: blanks, and behind them the one comment that is read on the line, if
there is one. -/
def Strips (line kept : List Char) : Prop :=
  ∃ (front comments : List Piece) (blanks : List Char),
    Reading [] (front ++ comments) ∧ textOf (front ++ comments) = line ∧
      (∀ piece ∈ front, ¬piece.IsComment) ∧
      (comments = [] ∨ ∃ c body, comments = [.comment c body] ∧
        StartsComment (textOf front) c body.head?) ∧
      textOf front = kept ++ blanks ∧ ∀ c ∈ blanks, Text.isBlank c = true

theorem Strips.isPrefix {line kept : List Char} (h : Strips line kept) : kept <+: line := by
  obtain ⟨front, comments, blanks, -, rfl, -, -, hfront, -⟩ := h
  rw [textOf_append, hfront, List.append_assoc]
  exact List.prefix_append _ _

/-- **A line** loses blanks at its end, and its comment. -/
theorem code_strips {line : List Char} (hbreak : '\n' ∉ line) : Strips line (code line) := by
  obtain ⟨pieces, hreading, rfl⟩ := exists_reading [] line
  have hline : .newline ∉ pieces := by
    intro hmem
    obtain ⟨before, after, rfl⟩ := List.append_of_mem hmem
    exact hbreak (by simp [Piece.chars])
  obtain ⟨front, comments, rfl, hfront, hcomments, hcode⟩ := codeFrom_pieces hreading hline
  obtain ⟨blanks, hblanks, hall⟩ := Text.trimEnd_append_blanks (textOf front)
  refine ⟨front, comments, blanks, hreading, rfl, hfront, hcomments, ?_, hall⟩
  have hfirst : codeFrom none none true (textOf (front ++ comments)) = textOf front := hcode
  rw [code, hfirst]
  exact hblanks

/-! ### The second pass -/

theorem codeFrom_semicolon (quote before : Option Char) (blank : Bool) :
    codeFrom quote before blank [';'] = [';'] := by
  cases quote with
  | none => exact codeFrom_outside (by decide) (by simp) (by simp)
  | some q =>
    rw [codeFrom_inside _ _ _ (by decide)]
    rfl

/-- A character that is kept outside of literals starts no comment. -/
theorem starts_no_comment {before : Option Char} {blank : Bool} {c : Char}
    {kept rest : List Char} (hquote : ¬isQuote c = true)
    (h : c :: kept <+: codeFrom none before blank (c :: rest)) :
    ¬(c = '/' ∧ rest.head? = some '/') ∧
      ¬(c = '#' ∧ rest.head? ≠ some '\x7b' ∧ (blank ∨ before.any Text.isAsciiBlank)) ∧
      kept <+: codeFrom none (some c) (blank && Text.isBlank c) rest := by
  by_cases hslashes : c = '/' ∧ rest.head? = some '/'
  · rw [codeFrom_slashes _ _ _ hquote hslashes, List.prefix_nil] at h
    cases h
  by_cases hhash : c = '#' ∧ rest.head? ≠ some '\x7b' ∧ (blank ∨ before.any Text.isAsciiBlank)
  · rw [codeFrom_hash hhash, List.prefix_nil] at h
    cases h
  rw [codeFrom_outside hquote hslashes hhash, List.prefix_cons_inj] at h
  exact ⟨hslashes, hhash, h⟩

/-- **What was kept of a line** stays code if only a semicolon stands behind it, and it was not cut
before the brace of a map. -/
theorem codeFrom_kept {quote before : Option Char} {blank : Bool} {kept rest mark : List Char}
    (hrest : rest.head? ≠ some '\x7b') (hmark : mark = [] ∨ mark = [';'])
    (h : kept <+: codeFrom quote before blank (kept ++ rest)) :
    codeFrom quote before blank (kept ++ mark) = kept ++ mark := by
  fun_induction codeFrom quote before blank kept with
  | case1 quote before blank =>
    rcases hmark with rfl | rfl
    · rfl
    · exact codeFrom_semicolon quote before blank
  | case2 before blank q =>
    rcases hmark with rfl | rfl <;> rfl
  | case3 before blank q d kept ih =>
    simp only [List.cons_append, codeFrom_escape, List.prefix_cons_inj] at h ⊢
    rw [ih h]
  | case4 before blank c kept q hslash ih =>
    simp only [List.cons_append, codeFrom_inside _ _ _ hslash, List.prefix_cons_inj] at h ⊢
    rw [ih h]
  | case5 before blank c kept hquote ih =>
    simp only [List.cons_append, codeFrom_open _ _ _ hquote, List.prefix_cons_inj] at h ⊢
    rw [ih h]
  -- what starts a comment is not kept
  | case6 before blank c kept hquote hslashes =>
    have h : c :: kept <+: codeFrom none before blank (c :: (kept ++ rest)) := h
    refine absurd ⟨hslashes.1, ?_⟩ (starts_no_comment hquote h).1
    rw [List.head?_append, hslashes.2]
    rfl
  | case7 before blank c kept hquote hslashes hhash =>
    have h : c :: kept <+: codeFrom none before blank (c :: (kept ++ rest)) := h
    refine absurd ⟨hhash.1, ?_, hhash.2.2⟩ (starts_no_comment hquote h).2.1
    cases kept with
    | nil => exact hrest
    | cons d kept => exact hhash.2.1
  | case8 before blank c kept hquote hslashes hhash ih =>
    have h : c :: kept <+: codeFrom none before blank (c :: (kept ++ rest)) := h
    obtain ⟨-, hnone, hkept⟩ := starts_no_comment hquote h
    -- behind the last character that was kept stands the mark now, which starts nothing with it
    have hmarked : ¬(c = '/' ∧ (kept ++ mark).head? = some '/') ∧
        ¬(c = '#' ∧ (kept ++ mark).head? ≠ some '\x7b' ∧
          (blank ∨ before.any Text.isAsciiBlank)) := by
      cases kept with
      | cons d kept => exact ⟨hslashes, hhash⟩
      | nil =>
        refine ⟨?_, fun h => hnone ⟨h.1, hrest, h.2.2⟩⟩
        rcases hmark with rfl | rfl <;> simp
    rw [List.cons_append, codeFrom_outside hquote hmarked.1 hmarked.2, ih hkept]

/-- A character that is neither a quote nor a brace changes no brace. -/
theorem trackFrom_concat {quote before : Option Char} {t : Track} {kept : List Char} {c : Char}
    (hquote : isQuote c = false) (hopen : c ≠ '\x7b') (hclose : c ≠ '\x7d') :
    trackFrom quote before t (kept ++ [c]) = trackFrom quote before t kept := by
  have hother : ¬isQuote c = true := by simp [hquote]
  fun_induction trackFrom quote before t kept with
  | case1 quote before t =>
    cases quote with
    | none => exact trackFrom_outside _ _ _ hother hopen hclose
    | some q =>
      by_cases hslash : c = '\\'
      · rw [hslash]
        rfl
      · exact trackFrom_inside _ _ _ hslash
  | case2 => rfl
  | case3 before t q d kept ih => exact ih
  | case4 before t d kept q hslash ih => rwa [List.cons_append, trackFrom_inside _ _ _ hslash]
  | case5 before t d kept hquote ih => rwa [List.cons_append, trackFrom_open _ _ _ hquote]
  | case6 before t kept hquote ih => exact ih
  | case7 before t kept hquote hopen ih => exact ih
  | case8 before t d kept hquote hopen hclose ih =>
    rwa [List.cons_append, trackFrom_outside _ _ _ hquote hopen hclose]

/-- A semicolon behind a line changes no brace. -/
theorem trackFrom_kept {quote before : Option Char} {t : Track} {kept mark : List Char}
    (hmark : mark = [] ∨ mark = [';']) :
    trackFrom quote before t (kept ++ mark) = trackFrom quote before t kept := by
  rcases hmark with rfl | rfl
  · rw [List.append_nil]
  · exact trackFrom_concat rfl (by decide) (by decide)

/-- What stands on a line behind its code does not begin with a brace. -/
theorem Strips.no_brace {line kept : List Char} (h : Strips line kept) :
    ∃ rest, line = kept ++ rest ∧ rest.head? ≠ some '\x7b' := by
  obtain ⟨front, comments, blanks, -, rfl, -, hcomments, hfront, hblanks⟩ := h
  refine ⟨blanks ++ textOf comments, by rw [textOf_append, hfront, List.append_assoc], ?_⟩
  cases blanks with
  | cons c blanks =>
    have hblank : Text.isBlank c = true := hblanks c List.mem_cons_self
    rintro ⟨⟩
    exact absurd hblank (by decide)
  | nil =>
    rcases hcomments with rfl | ⟨c, body, rfl, hstarts⟩
    · simp
    · rcases hstarts with ⟨rfl, -⟩ | ⟨rfl, -⟩ <;> simp [Piece.chars]

/-! ### Lines that are prepared twice -/

section Twice

variable {line : List Char} (hbreak : '\n' ∉ line) (stack : List Brace) (closed : Option Brace)

theorem exists_mark (code : List Char) (closed : Option Brace) :
    ∃ mark, terminated code closed = code ++ mark ∧ (mark = [] ∨ mark = [';']) := by
  unfold terminated
  split
  · exact ⟨[';'], rfl, .inr rfl⟩
  · exact ⟨[], (List.append_nil code).symm, .inl rfl⟩

/-- The end of a line that was terminated is no blank. -/
theorem not_blank_of_terminated {c : Char}
    (h : (terminated (code line) closed).getLast? = some c) : Text.isBlank c = false := by
  unfold terminated at h
  split at h
  · rw [List.getLast?_concat, Option.some.injEq] at h
    rw [← h]
    decide
  · exact Text.not_blank_of_trimEnd h

include hbreak in
/-- A line that was prepared has no comment. -/
theorem code_terminated : code (terminated (code line) closed) = terminated (code line) closed := by
  obtain ⟨rest, hline, hrest⟩ := (code_strips hbreak).no_brace
  obtain ⟨mark, hmarked, hmark⟩ := exists_mark (code line) closed
  have hkept : code line <+: codeFrom none none true (code line ++ rest) := by
    rw [← hline]
    exact List.rdropWhile_prefix _ _
  have hcode : codeFrom none none true (terminated (code line) closed) =
      terminated (code line) closed := by
    rw [hmarked]
    exact codeFrom_kept hrest hmark hkept
  rw [code, hcode]
  exact Text.trimEnd_eq_self fun c => not_blank_of_terminated closed

theorem track_terminated (code : List Char) :
    track stack (terminated code closed) = track stack code := by
  obtain ⟨mark, hmarked, hmark⟩ := exists_mark code closed
  rw [hmarked]
  exact trackFrom_kept hmark

/-- A line that was terminated needs no second semicolon. -/
theorem terminated_terminated (code : List Char) :
    terminated (terminated code closed) closed = terminated code closed := by
  by_cases hneeds : needsTerminator code closed = true
  · have hended : terminated code closed = code ++ [';'] := if_pos hneeds
    have hopen : needsTerminator (code ++ [';']) closed = false := by
      simp [needsTerminator, isOpen]
    rw [hended, terminated, hopen]
    rfl
  · have hsame : terminated code closed = code := if_neg hneeds
    rw [hsame, hsame]

end Twice

/-- **Lines that were prepared** are left as they are. -/
theorem prepareLines_prepareLines (stack : List Brace) {lines : List (List Char)}
    (h : ∀ line ∈ lines, '\n' ∉ line) :
    prepareLines stack (prepareLines stack lines) = prepareLines stack lines := by
  induction lines generalizing stack with
  | nil => rfl
  | cons line rest ih =>
    obtain ⟨hline, hrest⟩ := List.forall_mem_cons.1 h
    -- the second pass knows the same braces behind the line as the first
    simp only [prepareLines, code_terminated hline, track_terminated, terminated_terminated,
      ih _ hrest]

/-! ### Prepared scripts -/

/-- What a line is prepared to: its beginning, without what is cut off, and at most a semicolon. -/
def PreparesTo (line prepared : List Char) : Prop :=
  ∃ kept mark, prepared = kept ++ mark ∧ (mark = [] ∨ mark = [';']) ∧ kept <+: line ∧
    Strips line kept

theorem terminated_prepares {line : List Char} (hbreak : '\n' ∉ line) (closed : Option Brace) :
    PreparesTo line (terminated (code line) closed) := by
  obtain ⟨mark, hmarked, hmark⟩ := exists_mark (code line) closed
  have hstrips := code_strips hbreak
  exact ⟨code line, mark, hmarked, hmark, hstrips.isPrefix, hstrips⟩

theorem prepareLines_prepares (stack : List Brace) {lines : List (List Char)}
    (h : ∀ line ∈ lines, '\n' ∉ line) :
    List.Forall₂ PreparesTo lines (prepareLines stack lines) := by
  induction lines generalizing stack with
  | nil => exact .nil
  | cons line rest ih =>
    obtain ⟨hline, hrest⟩ := List.forall_mem_cons.1 h
    exact .cons (terminated_prepares hline _) (ih _ hrest)

/-- A prepared line is one line, and no blank stands at its end. -/
theorem prepared_line (stack : List Brace) {lines : List (List Char)}
    (h : ∀ line ∈ lines, '\n' ∉ line) :
    ∀ line ∈ prepareLines stack lines, '\n' ∉ line ∧ line.getLast? ≠ some '\r' := by
  induction lines generalizing stack with
  | nil => nofun
  | cons line rest ih =>
    obtain ⟨hline, hrest⟩ := List.forall_mem_cons.1 h
    refine List.forall_mem_cons.2 ⟨⟨?_, fun hreturn => ?_⟩, ih _ hrest⟩
    · obtain ⟨kept, mark, hprepared, hmark, hkept, -⟩ :=
        terminated_prepares hline (track stack (code line)).closed
      have hbreak : '\n' ∉ kept := fun hmem => hline (hkept.subset hmem)
      rw [hprepared]
      rcases hmark with rfl | rfl <;> simp [hbreak]
    · exact absurd (not_blank_of_terminated _ hreturn) (by decide)

/-- **The lines** of a prepared script. -/
theorem lines_prepareChars (text : List Char) :
    Text.lines (prepareChars text) = prepareLines [] (Text.lines text) :=
  Text.lines_flatMap (prepared_line [] fun _ => Text.break_not_mem_lines)

theorem prepareChars_prepareChars (text : List Char) :
    prepareChars (prepareChars text) = prepareChars text := by
  rw [prepareChars, lines_prepareChars,
    prepareLines_prepareLines [] fun _ => Text.break_not_mem_lines]
  rfl

/-- **Line by line** a script is prepared. Read byte by byte, it is not cut inside of a character.
The prepared script has as many lines, and each is the beginning of its line, which loses blanks at
its end and at most one comment, with at most a semicolon behind it. A second pass changes
nothing. -/
theorem prepare_linewise (text : String) :
    prepareBytes? text = some (prepare text) ∧
      (Text.lines (prepare text).toList).length = (Text.lines text.toList).length ∧
      List.Forall₂ PreparesTo (Text.lines text.toList) (Text.lines (prepare text).toList) ∧
      prepare (prepare text) = prepare text := by
  have hlines : List.Forall₂ PreparesTo (Text.lines text.toList)
      (Text.lines (prepare text).toList) := by
    rw [prepare, String.toList_ofList, lines_prepareChars]
    exact prepareLines_prepares [] fun _ => Text.break_not_mem_lines
  refine ⟨prepareBytes?_eq text, hlines.length_eq.symm, hlines, ?_⟩
  simp only [prepare, String.toList_ofList, prepareChars_prepareChars]

/-- A template is open at the end of its line, a map is closed on another one, and a tab stands
before a comment. -/
example : prepare "let m = #\x7b # map\n  a: `\\ \n\x7d\t// done" =
    "let m = #\x7b\n  a: `\\;\n\x7d;\n" := by
  cbv

end VectorScene.Script
