import Mathlib.Data.List.Infix
import VectorScene.Proofs.Script.Pieces
import VectorScene.Script.Scan

/-!
# Literals in prepared scripts

Preparing a script keeps every line up to the last literal on it that is closed there: no character
before the literal or in it is lost or added. The braces and quotes of other lines do not matter.

The expression language reads some literals otherwise. A template may run over several lines, and a
backslash has no meaning in it. Such literals are not kept.

## Main definitions

* `Complete`: pieces that end in a line feed, or none
* `LosesTemplate`: a template that is not kept

## Main results

* `prepareChars_line_kept`: what stands on a line up to a literal
* `prepareChars_literals`: the literals of every text
-/

namespace VectorScene.Text

/-! ### Lines -/

theorem segments_append_break (front back : List Char) :
    segments (front ++ '\n' :: back) = segments front ++ segments back := by
  induction front with
  | nil => rfl
  | cons c rest ih =>
    rw [List.cons_append, segments, segments]
    split
    · rw [ih]
      rfl
    · rw [ih]
      cases hsegments : segments rest with
      | nil => exact absurd hsegments (segments_ne_nil rest)
      | cons first others => rfl

theorem linesOfSegments_cons_cons (segment next : List Char) (more : List (List Char)) :
    linesOfSegments (segment :: next :: more) =
      dropReturn segment :: linesOfSegments (next :: more) := rfl

theorem linesOfSegments_append (front : List (List Char)) {back : List (List Char)}
    (hback : back ≠ []) :
    linesOfSegments (front ++ back) = front.map dropReturn ++ linesOfSegments back := by
  induction front with
  | nil => rfl
  | cons segment rest ih =>
    cases hrest : rest ++ back with
    | nil => exact absurd (List.append_eq_nil_iff.1 hrest).2 hback
    | cons next more =>
      rw [List.cons_append, hrest, linesOfSegments_cons_cons, ← hrest, ih]
      rfl

/-- Lines that are complete stand before those of the rest. -/
theorem lines_append_break (front back : List Char) :
    lines (front ++ '\n' :: back) = lines (front ++ ['\n']) ++ lines back := by
  have hfront : lines (front ++ ['\n']) = (segments front).map dropReturn := by
    rw [lines, segments_append_break, linesOfSegments_append _ (segments_ne_nil _)]
    simp [segments, linesOfSegments]
  rw [hfront, lines, segments_append_break, linesOfSegments_append _ (segments_ne_nil _), lines]

theorem segments_append_line {line : List Char} (hline : '\n' ∉ line) (rest : List Char) :
    ∃ first others, segments rest = first :: others ∧
      segments (line ++ rest) = (line ++ first) :: others := by
  induction line with
  | nil =>
    obtain ⟨first, others, h⟩ := List.exists_cons_of_ne_nil (segments_ne_nil rest)
    exact ⟨first, others, h, h⟩
  | cons c line ih =>
    simp only [List.mem_cons, not_or] at hline
    obtain ⟨first, others, hrest, h⟩ := ih hline.2
    exact ⟨first, others, hrest, by simp only [List.cons_append, segments,
      if_neg (Ne.symm hline.1), h]⟩

theorem dropReturn_append {line : List Char} {c : Char} (hc : c ≠ '\r') (rest : List Char) :
    ∃ more, dropReturn (line ++ [c] ++ rest) = line ++ [c] ++ more := by
  unfold dropReturn
  split
  · rename_i hlast
    cases hrest : rest with
    | nil =>
      rw [hrest, List.append_nil, List.getLast?_concat] at hlast
      exact absurd (Option.some.inj hlast) hc
    | cons d more =>
      exact ⟨(d :: more).dropLast, List.dropLast_append_of_ne_nil (List.cons_ne_nil d more)⟩
  · exact ⟨rest, rfl⟩

/-- What stands before every line feed is kept in the first line, unless it ends in a carriage
return. -/
theorem lines_append_last {line : List Char} {c : Char} (hline : '\n' ∉ line ++ [c])
    (hc : c ≠ '\r') (rest : List Char) :
    ∃ more others, lines (line ++ [c] ++ rest) = (line ++ [c] ++ more) :: others := by
  obtain ⟨first, others, -, h⟩ := segments_append_line hline rest
  rw [lines, h]
  cases others with
  | nil => exact ⟨first, [], by simp [linesOfSegments]⟩
  | cons next others =>
    obtain ⟨more, hmore⟩ := @dropReturn_append line c hc first
    exact ⟨more, _, by rw [linesOfSegments_cons_cons, hmore]⟩

/-- Blanks are trimmed behind a character that is none. -/
theorem trimEnd_append {line : List Char} {c : Char} (hc : isBlank c = false) (rest : List Char) :
    ∃ more, trimEnd (line ++ [c] ++ rest) = line ++ [c] ++ more := by
  refine ⟨trimEnd rest, ?_⟩
  unfold trimEnd
  rw [List.reverse_append, List.dropWhile_append]
  split
  · rename_i hrest
    rw [List.isEmpty_iff.1 hrest]
    simp [hc]
  · simp

end VectorScene.Text

namespace VectorScene.Script

/-- The lines behind others are prepared with the braces that are open behind those. -/
theorem prepareLines_append (stack : List Brace) (front : List (List Char)) :
    ∃ stack', ∀ back, prepareLines stack (front ++ back) =
      prepareLines stack front ++ prepareLines stack' back := by
  induction front generalizing stack with
  | nil => exact ⟨stack, fun _ => rfl⟩
  | cons line rest ih =>
    obtain ⟨stack', h⟩ := ih (track stack (code line)).stack
    exact ⟨stack', fun back => by simp only [List.cons_append, prepareLines, h]⟩

/-- Pieces that end in a line feed, or none. -/
def Complete (pieces : List Piece) : Prop := pieces = [] ∨ ∃ front, pieces = front ++ [.newline]

theorem Complete.lines {front : List Piece} (h : Complete front) (rest : List Char) :
    Text.lines (textOf front ++ rest) = Text.lines (textOf front) ++ Text.lines rest := by
  obtain rfl | ⟨front, rfl⟩ := h
  · rfl
  · have hbreak : textOf (front ++ [Piece.newline]) = textOf front ++ ['\n'] := by
      simp [Piece.chars]
    rw [hbreak, ← Text.lines_append_break, List.append_assoc]
    rfl

/-- Complete pieces stand before the last line. -/
theorem exists_complete (pieces : List Piece) :
    ∃ front line, pieces = front ++ line ∧ Complete front ∧ .newline ∉ line := by
  induction pieces with
  | nil => exact ⟨[], [], rfl, .inl rfl, by simp⟩
  | cons piece rest ih =>
    obtain ⟨front, line, rfl, rfl | ⟨front, rfl⟩, hline⟩ := ih
    · by_cases hpiece : piece = .newline
      · exact ⟨[piece], line, rfl, .inr ⟨[], by rw [hpiece]; rfl⟩, hline⟩
      · exact ⟨[], piece :: line, rfl, .inl rfl, by simp [Ne.symm hpiece, hline]⟩
    · exact ⟨piece :: (front ++ [.newline]), line, rfl, .inr ⟨piece :: front, rfl⟩, hline⟩

namespace Reading

variable {line : List Char} {pieces front back : List Piece} {quote : Char} {body : List Char}

theorem behind_newline (h : Reading line (front ++ .newline :: back)) : Reading [] back := by
  induction front generalizing line with
  | nil =>
    cases h with
    | newline h => exact h
  | cons piece rest ih =>
    rw [List.cons_append] at h
    cases h with
    | newline h => exact ih h
    | char _ _ _ h => exact ih h
    | literal _ _ _ h => exact ih h
    | unclosed _ _ _ _ h => exact ih h
    | comment _ _ _ h => exact ih h

/-- Behind complete pieces a line starts. -/
theorem behind (h : Reading [] (front ++ back)) (hfront : Complete front) : Reading [] back := by
  obtain rfl | ⟨front, rfl⟩ := hfront
  · exact h
  · rw [List.append_assoc] at h
    exact h.behind_newline

/-- A literal that is read has quotes around it, and is closed on its line. -/
theorem literal_of_mem (h : Reading line pieces) (hmem : .literal quote body ∈ pieces) :
    isQuote quote = true ∧ Within quote body ∧ '\n' ∉ body := by
  induction h with
  | nil => cases hmem
  | newline _ ih => exact ih (by simpa using hmem)
  | char _ _ _ _ ih => exact ih (by simpa using hmem)
  | unclosed _ _ _ _ _ ih => exact ih (by simpa using hmem)
  | comment _ _ _ _ ih => exact ih (by simpa using hmem)
  | literal hquote hbody hline _ ih =>
    rcases List.mem_cons.1 hmem with heq | hmem
    · cases heq
      exact ⟨hquote, hbody, hline⟩
    · exact ih hmem

theorem break_not_mem_chars {piece : Piece} {rest : List Piece} (h : Reading line (piece :: rest))
    (hpiece : piece ≠ .newline) : '\n' ∉ piece.chars := by
  cases h with
  | newline _ => exact absurd rfl hpiece
  | char hc _ _ _ => simpa [Piece.chars] using Ne.symm hc
  | literal hquote _ hline _ => simp [Piece.chars, hline, (ne_break_of_quote hquote).1.symm]
  | unclosed hquote _ hline _ _ => simp [Piece.chars, hline, (ne_break_of_quote hquote).1.symm]
  | comment hstarts hline _ _ =>
    simp only [Piece.chars, List.mem_cons, not_or]
    refine ⟨?_, hline⟩
    rintro rfl
    rcases hstarts with ⟨h, -⟩ | ⟨h, -⟩ <;> cases h

/-- No line feed is read but by itself. -/
theorem break_not_mem (h : Reading line (front ++ back)) (hfront : .newline ∉ front) :
    '\n' ∉ textOf front := by
  induction front generalizing line with
  | nil => simp
  | cons piece rest ih =>
    rw [List.cons_append] at h
    simp only [List.mem_cons, not_or] at hfront
    rw [textOf_cons, List.mem_append, not_or]
    refine ⟨h.break_not_mem_chars (Ne.symm hfront.1), ?_⟩
    cases h with
    | newline h => exact ih h hfront.2
    | char _ _ _ h => exact ih h hfront.2
    | literal _ _ _ h => exact ih h hfront.2
    | unclosed _ _ _ _ h => exact ih h hfront.2
    | comment _ _ _ h => exact ih h hfront.2

end Reading

/-! ### Literals -/

section Literals

variable {front line back : List Piece} {quote : Char} {body : List Char}

theorem chars_literal (line : List Piece) (quote : Char) (body more : List Char) :
    textOf line ++ ((Piece.literal quote body).chars ++ more) =
      (textOf line ++ quote :: body) ++ [quote] ++ more := by
  simp [Piece.chars]

/-- A line that is stripped of its comment begins with what stands up to a literal. -/
theorem code_reading (h : Reading [] (line ++ .literal quote body :: back))
    (hline : .newline ∉ line) (more : List Char) :
    ∃ more', code (textOf line ++ ((Piece.literal quote body).chars ++ more)) =
      textOf line ++ ((Piece.literal quote body).chars ++ more') := by
  obtain ⟨hquote, -, -⟩ := h.literal_of_mem (List.mem_append_right _ List.mem_cons_self)
  have hread : codeFrom none none true (textOf line ++ ((Piece.literal quote body).chars ++ more)) =
      textOf line ++ ((Piece.literal quote body).chars ++ codeFrom none (some quote) false more) :=
    codeFrom_reading h hline more
  -- the literal ends in its quote, so that only blanks behind it are trimmed
  obtain ⟨more', htrim⟩ := @Text.trimEnd_append (textOf line ++ quote :: body) quote
    (not_blank_of_quote hquote) (codeFrom none (some quote) false more)
  exact ⟨more', by rw [code, hread, chars_literal, htrim, chars_literal]⟩

/-- The first line of a text begins with what stands up to a literal before every line feed. -/
theorem lines_reading (h : Reading [] (line ++ .literal quote body :: back))
    (hline : .newline ∉ line) (rest : List Char) :
    ∃ more others, Text.lines (textOf line ++ ((Piece.literal quote body).chars ++ rest)) =
      (textOf line ++ ((Piece.literal quote body).chars ++ more)) :: others := by
  obtain ⟨hquote, -, -⟩ := h.literal_of_mem (List.mem_append_right _ List.mem_cons_self)
  have hbreak : '\n' ∉ (textOf line ++ quote :: body) ++ [quote] := by
    have hnone : '\n' ∉ textOf (line ++ [Piece.literal quote body]) :=
      Reading.break_not_mem (by simpa using h) (by simp [hline])
    simpa [Piece.chars] using hnone
  obtain ⟨more, others, hlines⟩ :=
    Text.lines_append_last hbreak (ne_break_of_quote hquote).2 rest
  exact ⟨more, others, by rw [chars_literal, hlines, chars_literal]⟩

theorem terminated_append (code : List Char) (closed : Option Brace) :
    ∃ rest, terminated code closed = code ++ rest := by
  unfold terminated
  split
  · exact ⟨_, rfl⟩
  · exact ⟨[], (List.append_nil code).symm⟩

/-- **What stands on a line** up to a literal follows the lines before it, which are prepared by
themselves. -/
theorem prepareChars_line_kept (h : Reading [] (front ++ (line ++ .literal quote body :: back)))
    (hfront : Complete front) (hline : .newline ∉ line) :
    ∃ rest, prepareChars (textOf (front ++ (line ++ .literal quote body :: back))) =
      prepareChars (textOf front) ++
        (textOf line ++ ((Piece.literal quote body).chars ++ rest)) := by
  have hreading := h.behind hfront
  have htext : textOf (front ++ (line ++ Piece.literal quote body :: back)) = textOf front ++
      (textOf line ++ ((Piece.literal quote body).chars ++ textOf back)) := by simp
  obtain ⟨more, others, hlines⟩ := lines_reading hreading hline (textOf back)
  obtain ⟨stack, hstack⟩ := prepareLines_append [] (Text.lines (textOf front))
  obtain ⟨more', hcode⟩ := code_reading hreading hline more
  rw [htext, prepareChars, hfront.lines, hlines, hstack, List.flatMap_append, ← prepareChars,
    prepareLines, List.flatMap_cons, hcode]
  obtain ⟨semicolon, hterminated⟩ := terminated_append
    (textOf line ++ ((Piece.literal quote body).chars ++ more'))
    (track stack (textOf line ++ ((Piece.literal quote body).chars ++ more'))).closed
  rw [hterminated]
  exact ⟨more' ++ (semicolon ++ ('\n' :: _)), by simp only [List.append_assoc]; rfl⟩

end Literals

/-- **The literals of a script.** Every text is read as pieces. Each literal that is closed on its
line stands in the prepared script, character for character, and so does what stands before it on
the line. It follows the lines before it, which are prepared by themselves. -/
theorem prepareChars_literals (text : List Char) :
    (∃ pieces, Reading [] pieces ∧ textOf pieces = text) ∧
    ∀ (before : List Piece) (quote : Char) (body : List Char) (back : List Piece),
      Reading [] (before ++ .literal quote body :: back) →
      textOf (before ++ .literal quote body :: back) = text →
      ∃ front line rest, before = front ++ line ∧ Complete front ∧ .newline ∉ line ∧
        prepareChars text = prepareChars (textOf front) ++
          (textOf line ++ ((Piece.literal quote body).chars ++ rest)) := by
  refine ⟨exists_reading [] text, fun before quote body back h htext => ?_⟩
  obtain ⟨front, line, rfl, hfront, hline⟩ := exists_complete before
  rw [List.append_assoc] at htext h
  obtain ⟨rest, hrest⟩ := prepareChars_line_kept h hfront hline
  exact ⟨front, line, rest, rfl, hfront, hline, htext ▸ hrest⟩

/-- Characters that start neither a comment nor a literal are read one by one. -/
theorem Reading.chars {line text : List Char} {rest : List Piece}
    (htext : ∀ c ∈ text, isOrdinary c = true ∧ c ≠ '\n') (h : Reading (line ++ text) rest) :
    Reading line (text.map .char ++ rest) := by
  induction text generalizing line with
  | nil => simpa using h
  | cons c text ih =>
    obtain ⟨⟨hc, hbreak⟩, htext⟩ := List.forall_mem_cons.1 htext
    simp only [isOrdinary, Bool.and_eq_true, Bool.not_eq_true', bne_iff_ne] at hc
    obtain ⟨⟨⟨⟨hquote, hslash⟩, hhash⟩, -⟩, -⟩ := hc
    refine .char hbreak hquote ?_ (ih htext (by simpa using h))
    rintro (⟨rfl, -⟩ | ⟨rfl, -⟩)
    · exact hslash rfl
    · exact hhash rfl

section Markers

/-- A call with a literal that has markers in it. -/
def markers : List Piece :=
  "show(".toList.map .char ++ .literal '"' "# // #".toList :: [.char ')', .char ' ',
    .comment '#' " it's done".toList]

theorem reading_markers : Reading [] markers := by
  have hbody : Within '"' "# // #".toList := within_of_forall (by simp)
  refine .chars (by simp [isOrdinary, isQuote]) (.literal rfl hbody (by decide) ?_)
  refine .char (by decide) rfl ?_ (.char (by decide) rfl ?_ (.comment ?_ (by decide) (.inl rfl)
    .nil))
  · rintro (⟨h, -⟩ | ⟨h, -⟩) <;> cases h
  · rintro (⟨h, -⟩ | ⟨h, -⟩) <;> cases h
  · exact .inr ⟨rfl, by decide, .inr (by decide)⟩

/-- The markers in the literal start no comment. -/
theorem prepareChars_literals_markers :
    "\"# // #\"".toList <:+: prepareChars "show(\"# // #\") # it's done".toList := by
  obtain ⟨-, hkept⟩ := prepareChars_literals "show(\"# // #\") # it's done".toList
  obtain ⟨front, line, rest, -, -, -, hrest⟩ := hkept _ _ _ _ reading_markers rfl
  exact ⟨prepareChars (textOf front) ++ textOf line, rest, by rw [hrest]; simp; rfl⟩

end Markers

/-- A template that the expression language reads in a text is not in the prepared text. -/
def LosesTemplate (text template : String) : Prop :=
  (∃ line, ⟨.template template false, line⟩ ∈ lexemes text) ∧
    ¬('\x60' :: template.toList ++ ['\x60']) <:+: prepareChars text.toList

/-- Templates that are not kept: one that runs over two lines, and one behind a template that ends
in a backslash. -/
theorem template_not_kept :
    LosesTemplate "let x = `a\nb # c`" "a\nb # c" ∧
      LosesTemplate "let x = `\\` + `a # b`" "a # b" := by
  refine ⟨⟨⟨1, ?_⟩, by decide +kernel⟩, ⟨⟨1, ?_⟩, by decide +kernel⟩⟩
  · exact List.mem_of_getElem? (i := 3) rfl
  · exact List.mem_of_getElem? (i := 5) rfl

end VectorScene.Script
