import VectorScene.Script.Source
import VectorScene.Text.Identifier

/-!
# Lines without a comment

Preparing a script leaves a line as it is, but for its semicolon, if nothing in it starts a comment.
What stands in a literal starts none, as long as the literal is closed.

## Main definitions

* `Inside`: what may stand between double quotes
* `Within`: what is read between quotes of one kind
* `Kept`: pieces of a line that no comment starts in, and that open and close no block
* `IsStatement`: lines that are a statement as they stand

## Main results

* `codeFrom_cons`, `trackFrom_cons` and the lemmas about them: one step of the readers
* `kept_chars`, `kept_quoted`, `Kept.append`: such pieces
* `prepareLines_statements`: statements, one a line
* `prepareChars_statement`: a script of one line
-/

namespace VectorScene.Script

/-! ### One step of the readers

The step in a literal and the step outside of literals are stated here once, by the character that
is read; what follows does not unfold the readers. -/

section Steps

variable (quote before : Option Char) (blank : Bool) (t : Track) {q c : Char} (rest : List Char)

@[simp] theorem codeFrom_nil : codeFrom quote before blank [] = [] := rfl

theorem codeFrom_escape : codeFrom (some q) before blank ('\\' :: c :: rest) =
    '\\' :: c :: codeFrom (some q) (some c) false rest := rfl

theorem codeFrom_inside (hslash : c ≠ '\\') : codeFrom (some q) before blank (c :: rest) =
    c :: codeFrom (if c = q then none else some q) (some c) false rest := by
  cases rest with
  | nil => exact if_neg hslash
  | cons d rest => exact if_neg hslash

/-- Outside of literals a quote opens one, and what starts a comment ends the code. -/
theorem codeFrom_cons : codeFrom none before blank (c :: rest) =
    if isQuote c then c :: codeFrom (some c) (some c) false rest
    else if c = '/' ∧ rest.head? = some '/' then []
    else if c = '#' ∧ rest.head? ≠ some '\x7b' ∧ (blank ∨ before.any Text.isAsciiBlank) then []
    else c :: codeFrom none (some c) (blank && Text.isBlank c) rest := rfl

theorem codeFrom_open (hquote : isQuote c = true) : codeFrom none before blank (c :: rest) =
    c :: codeFrom (some c) (some c) false rest :=
  if_pos hquote

theorem codeFrom_slashes (hquote : ¬isQuote c = true) (hslashes : c = '/' ∧ rest.head? = some '/') :
    codeFrom none before blank (c :: rest) = [] :=
  (if_neg hquote).trans (if_pos hslashes)

theorem codeFrom_hash {before : Option Char} {blank : Bool} {rest : List Char}
    (hhash : c = '#' ∧ rest.head? ≠ some '\x7b' ∧ (blank ∨ before.any Text.isAsciiBlank)) :
    codeFrom none before blank (c :: rest) = [] := by
  obtain ⟨rfl, -⟩ := id hhash
  rw [codeFrom_cons, if_neg (by decide), if_neg (by simp), if_pos hhash]

theorem codeFrom_outside {before : Option Char} {blank : Bool} {rest : List Char}
    (hquote : ¬isQuote c = true) (hslashes : ¬(c = '/' ∧ rest.head? = some '/'))
    (hhash : ¬(c = '#' ∧ rest.head? ≠ some '\x7b' ∧ (blank ∨ before.any Text.isAsciiBlank))) :
    codeFrom none before blank (c :: rest) =
      c :: codeFrom none (some c) (blank && Text.isBlank c) rest := by
  rw [codeFrom_cons, if_neg hquote, if_neg hslashes, if_neg hhash]

theorem trackFrom_escape : trackFrom (some q) before t ('\\' :: c :: rest) =
    trackFrom (some q) (some c) t rest := rfl

theorem trackFrom_inside (hslash : c ≠ '\\') : trackFrom (some q) before t (c :: rest) =
    trackFrom (if c = q then none else some q) (some c) t rest := by
  cases rest with
  | nil => exact if_neg hslash
  | cons d rest => exact if_neg hslash

/-- Outside of literals a quote opens one, and braces are counted. -/
theorem trackFrom_cons : trackFrom none before t (c :: rest) =
    if isQuote c then trackFrom (some c) (some c) t rest
    else if c = '\x7b' then
      trackFrom none (some c) (t.opened (if before = some '#' then .map else .block)) rest
    else if c = '\x7d' then trackFrom none (some c) t.close rest
    else trackFrom none (some c) t rest := rfl

theorem trackFrom_open (hquote : isQuote c = true) : trackFrom none before t (c :: rest) =
    trackFrom (some c) (some c) t rest :=
  if_pos hquote

theorem trackFrom_outside (hquote : ¬isQuote c = true) (hopen : c ≠ '\x7b') (hclose : c ≠ '\x7d') :
    trackFrom none before t (c :: rest) = trackFrom none (some c) t rest := by
  rw [trackFrom_cons, if_neg hquote, if_neg hopen, if_neg hclose]

end Steps

/-! ### Pieces that are kept -/

/-- What may stand between double quotes: a backslash takes the next character with it. -/
inductive Inside : List Char → Prop
  | nil : Inside []
  | plain {c : Char} {rest : List Char} : c ≠ '\\' → c ≠ '"' → Inside rest → Inside (c :: rest)
  | escaped (c : Char) {rest : List Char} : Inside rest → Inside ('\\' :: c :: rest)

theorem Inside.append {front back : List Char} (hfront : Inside front) (hback : Inside back) :
    Inside (front ++ back) := by
  induction hfront with
  | nil => exact hback
  | plain hslash hquote _ ih => exact .plain hslash hquote ih
  | escaped c _ ih => exact .escaped c ih

/-- What the readers of comments and braces read between quotes of one kind. -/
inductive Within (quote : Char) : List Char → Prop
  | nil : Within quote []
  | plain {c : Char} {rest : List Char} :
    c ≠ '\\' → c ≠ quote → Within quote rest → Within quote (c :: rest)
  | escaped (c : Char) {rest : List Char} : Within quote rest → Within quote ('\\' :: c :: rest)

theorem within_of_forall {quote : Char} {body : List Char}
    (h : ∀ c ∈ body, c ≠ '\\' ∧ c ≠ quote) : Within quote body := by
  induction body with
  | nil => exact .nil
  | cons c rest ih =>
    obtain ⟨⟨hslash, hquote⟩, hrest⟩ := List.forall_mem_cons.1 h
    exact .plain hslash hquote (ih hrest)

theorem Inside.within {body : List Char} (h : Inside body) : Within '"' body := by
  induction h with
  | nil => exact .nil
  | plain hslash hquote _ ih => exact .plain hslash hquote ih
  | escaped c _ ih => exact .escaped c ih

/-- A piece of a line that the readers of comments and braces go past, whatever surrounds it. -/
structure Kept (piece : List Char) : Prop where
  code (before : Option Char) (blank : Bool) (rest : List Char) : ∃ before' blank',
    codeFrom none before blank (piece ++ rest) = piece ++ codeFrom none before' blank' rest
  track (before : Option Char) (t : Track) (rest : List Char) : ∃ before',
    trackFrom none before t (piece ++ rest) = trackFrom none before' t rest

theorem kept_nil : Kept [] :=
  ⟨fun before blank _ => ⟨before, blank, rfl⟩, fun before _ _ => ⟨before, rfl⟩⟩

theorem Kept.append {front back : List Char} (hfront : Kept front) (hback : Kept back) :
    Kept (front ++ back) := by
  constructor
  · intro before blank rest
    obtain ⟨before₁, blank₁, h₁⟩ := hfront.code before blank (back ++ rest)
    obtain ⟨before₂, blank₂, h₂⟩ := hback.code before₁ blank₁ rest
    exact ⟨before₂, blank₂, by rw [List.append_assoc, h₁, h₂, List.append_assoc]⟩
  · intro before t rest
    obtain ⟨before₁, h₁⟩ := hfront.track before t (back ++ rest)
    obtain ⟨before₂, h₂⟩ := hback.track before₁ t rest
    exact ⟨before₂, by rw [List.append_assoc, h₁, h₂]⟩

/-- A character that starts neither a comment nor a literal and is no brace. -/
def isOrdinary (c : Char) : Bool :=
  !isQuote c && c != '/' && c != '#' && c != '\x7b' && c != '\x7d'

/-- What may stand in an identifier is ordinary, digits included. -/
theorem isOrdinary_part {c : Char} (h : Text.isIdentifierPart c = true) :
    isOrdinary c = true := by
  have hne : ∀ d, Text.isIdentifierPart d = false → c ≠ d := by
    rintro d hd rfl
    rw [h] at hd
    cases hd
  simp only [isOrdinary, isQuote, Bool.and_eq_true, Bool.not_eq_true', Bool.or_eq_false_iff,
    beq_eq_false_iff_ne, bne_iff_ne]
  refine ⟨⟨⟨⟨⟨⟨?_, ?_⟩, ?_⟩, ?_⟩, ?_⟩, ?_⟩, ?_⟩ <;> exact hne _ (by decide)

theorem kept_char {c : Char} (h : isOrdinary c = true) : Kept [c] := by
  simp only [isOrdinary, Bool.and_eq_true, Bool.not_eq_true', bne_iff_ne] at h
  obtain ⟨⟨⟨⟨hquote, hslash⟩, hhash⟩, hopen⟩, hclose⟩ := h
  constructor
  · intro before blank rest
    exact ⟨some c, blank && Text.isBlank c,
      codeFrom_outside (by simp [hquote]) (fun h => hslash h.1) (fun h => hhash h.1)⟩
  · intro before t rest
    exact ⟨some c, trackFrom_outside before t rest (by simp [hquote]) hopen hclose⟩

theorem kept_chars {piece : List Char} (h : ∀ c ∈ piece, isOrdinary c = true) : Kept piece := by
  induction piece with
  | nil => exact kept_nil
  | cons c rest ih =>
    obtain ⟨hc, hrest⟩ := List.forall_mem_cons.1 h
    exact (kept_char hc).append (ih hrest)

section Quoted

variable {quote : Char} {body : List Char}

theorem codeFrom_within (hslash : quote ≠ '\\') (h : Within quote body) (before : Option Char)
    (blank : Bool) (rest : List Char) :
    codeFrom (some quote) before blank (body ++ quote :: rest) =
      body ++ quote :: codeFrom none (some quote) false rest := by
  induction h generalizing before blank with
  | nil => rw [List.nil_append, codeFrom_inside _ _ _ hslash, if_pos rfl, List.nil_append]
  | plain hc hquote _ ih =>
    rw [List.cons_append, codeFrom_inside _ _ _ hc, if_neg hquote, ih, List.cons_append]
  | escaped c _ ih =>
    rw [List.cons_append, List.cons_append, codeFrom_escape, ih, List.cons_append, List.cons_append]

theorem trackFrom_within (hslash : quote ≠ '\\') (h : Within quote body) (before : Option Char)
    (t : Track) (rest : List Char) :
    trackFrom (some quote) before t (body ++ quote :: rest) =
      trackFrom none (some quote) t rest := by
  induction h generalizing before with
  | nil => rw [List.nil_append, trackFrom_inside _ _ _ hslash, if_pos rfl]
  | plain hc hquote _ ih =>
    rw [List.cons_append, trackFrom_inside _ _ _ hc, if_neg hquote, ih]
  | escaped c _ ih => rw [List.cons_append, List.cons_append, trackFrom_escape, ih]

end Quoted

/-- **A literal** that is closed. -/
theorem kept_quoted {body : List Char} (h : Inside body) : Kept ('"' :: body ++ ['"']) := by
  have hquote : isQuote '"' = true := rfl
  constructor
  · intro before blank rest
    refine ⟨some '"', false, ?_⟩
    have hwithin := codeFrom_within (by decide) h.within (some '"') false rest
    simp only [List.cons_append, codeFrom_open _ _ _ hquote, List.append_assoc, List.nil_append,
      hwithin]
  · intro before t rest
    refine ⟨some '"', ?_⟩
    have hwithin := trackFrom_within (by decide) h.within (some '"') t rest
    simp only [List.cons_append, trackFrom_open _ _ _ hquote, List.append_assoc, List.nil_append,
      hwithin]

/-! ### Statements -/

theorem segments_line {line : List Char} (h : '\n' ∉ line) : Text.segments line = [line] := by
  induction line with
  | nil => rfl
  | cons c rest ih =>
    simp only [List.mem_cons, not_or] at h
    have hc : ¬c = '\n' := fun hc => h.1 hc.symm
    simp [Text.segments, hc, ih h.2]

theorem trimEnd_concat {c : Char} (h : Text.isBlank c = false) (line : List Char) :
    Text.trimEnd (line ++ [c]) = line ++ [c] := by
  simp [Text.trimEnd, h]

/-- A line that is a statement as it stands: no comment starts in it, it opens and closes no block,
and its last character neither leaves the statement open nor has closed it. -/
structure IsStatement (line : List Char) : Prop where
  kept : Kept line
  last : ∃ front c, line = front ++ [c] ∧ Text.isBlank c = false ∧ isOpen c = false ∧ c ≠ '\x7d'

theorem IsStatement.code_eq {line : List Char} (h : IsStatement line) : code line = line := by
  obtain ⟨hkept, front, c, rfl, hblank, -, -⟩ := h
  obtain ⟨before, blank, h⟩ := hkept.code none true []
  rw [List.append_nil] at h
  rw [code, h, codeFrom_nil, List.append_nil, trimEnd_concat hblank]

theorem IsStatement.track_eq {line : List Char} (h : IsStatement line) (stack : List Brace) :
    track stack line = ⟨stack, none⟩ := by
  obtain ⟨before, h⟩ := h.kept.track none ⟨stack, none⟩ []
  rw [List.append_nil] at h
  exact h

theorem IsStatement.terminated_eq {line : List Char} (h : IsStatement line) :
    terminated line none = line ++ [';'] := by
  obtain ⟨-, front, c, rfl, -, hopen, hbrace⟩ := h
  simp [terminated, needsTerminator, hbrace, hopen]

/-- **Statements**, one a line, get a semicolon each, whatever braces are open before them. -/
theorem prepareLines_statements (stack : List Brace) {lines : List (List Char)}
    (h : ∀ line ∈ lines, IsStatement line) :
    prepareLines stack lines = lines.map (· ++ [';']) := by
  induction lines with
  | nil => rfl
  | cons line rest ih =>
    obtain ⟨hline, hrest⟩ := List.forall_mem_cons.1 h
    -- the braces behind the line are those before it, so the induction needs no other stack
    rw [prepareLines, hline.code_eq, hline.track_eq, hline.terminated_eq, ih hrest, List.map_cons]

/-- **A script of one line** that is a statement gets a semicolon. -/
theorem prepareChars_statement {line : List Char} (h : IsStatement line) (hbreak : '\n' ∉ line) :
    prepareChars line = line ++ [';', '\n'] := by
  obtain ⟨front, c, hlast, -⟩ := h.last
  have hlines : Text.lines line = [line] := by
    rw [Text.lines, segments_line hbreak, hlast]
    simp [Text.linesOfSegments]
  have hprepared := prepareLines_statements [] (List.forall_mem_singleton.2 h)
  rw [prepareChars, hlines, hprepared]
  simp

end VectorScene.Script
