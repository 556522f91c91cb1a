import VectorScene.Proofs.Script.Prepared
import VectorScene.Script.Scan

/-!
# Braces that match

A closing brace at the end of a line ends a statement just if it closes a map: if the opening brace
that it matches stands directly behind a `#`. Which brace it matches is told by all the text before
it, over any number of lines, and braces in literals and comments do not count. A closing brace that
closes a block, or nothing, does not end a statement.

Literals are read as in `Piece`. In the expression language a backslash has no meaning in a
template, and comments may stand between other things on a line, so that the braces behind some
templates and inside of some comments are taken for others there.

## Main definitions

* `Balanced`: pieces in which every brace is matched
* `ClosesMap`: pieces behind which a closing brace closes a map
* `openBraces`: the braces that are open behind pieces

## Main results

* `closesMap_iff`: the innermost open brace is the one that is matched
* `track_line`, `prepareLines_complete`: the braces that are open behind lines
* `prepareChars_closing_brace`: closing braces at the ends of lines
-/

namespace VectorScene.Script

/-! ### Matching -/

/-- Pieces in which every brace is matched by another one. -/
inductive Balanced : List Piece → Prop
  | nil : Balanced []
  | other {piece : Piece} {rest : List Piece} : piece ≠ .char '\x7b' → piece ≠ .char '\x7d' →
    Balanced rest → Balanced (piece :: rest)
  | pair {inner rest : List Piece} : Balanced inner → Balanced rest →
    Balanced (.char '\x7b' :: (inner ++ .char '\x7d' :: rest))

theorem Balanced.append {front back : List Piece} (hfront : Balanced front)
    (hback : Balanced back) : Balanced (front ++ back) := by
  induction hfront with
  | nil => exact hback
  | other hopen hclose _ ih => exact .other hopen hclose ih
  | @pair inner rest hinner _ _ ih =>
    rw [List.cons_append, List.append_assoc]
    exact .pair hinner ih

/-- A closing brace behind these pieces matches an opening brace directly behind a `#`. -/
def ClosesMap (before : List Piece) : Prop :=
  ∃ outer inner, before = outer ++ .char '\x7b' :: inner ∧ Balanced inner ∧
    (textOf outer).getLast? = some '#'

/-! ### Open braces -/

/-- What an opening brace starts, given the character before it on its line. -/
def opens (before : Option Char) : Brace := if before = some '#' then .map else .block

/-- What is known behind a piece, given what is known before it: the last character on the line, and
the braces that are open. -/
def Piece.pass (s : Option Char × List Brace) : Piece → Option Char × List Brace
  | .newline => (none, s.2)
  | .char c => (some c,
      if c = '\x7b' then opens s.1 :: s.2 else if c = '\x7d' then s.2.tail else s.2)
  | .literal quote _ => (some quote, s.2)
  | .unclosed quote body => ((quote :: body).getLast?, s.2)
  | .comment c body => ((c :: body).getLast?, s.2)

/-- The braces that are open behind pieces. -/
def openBraces (pieces : List Piece) : List Brace := (pieces.foldl Piece.pass (none, [])).2

theorem Piece.pass_other {piece : Piece} (hopen : piece ≠ .char '\x7b')
    (hclose : piece ≠ .char '\x7d') (s : Option Char × List Brace) : (piece.pass s).2 = s.2 := by
  cases piece with
  | char c =>
    have hopen : c ≠ '\x7b' := fun h => hopen (congrArg _ h)
    have hclose : c ≠ '\x7d' := fun h => hclose (congrArg _ h)
    simp only [Piece.pass, if_neg hopen, if_neg hclose]
  | _ => rfl

/-- Behind balanced pieces the same braces are open as before them. -/
theorem Balanced.foldl_pass {pieces : List Piece} (h : Balanced pieces)
    (s : Option Char × List Brace) : (pieces.foldl Piece.pass s).2 = s.2 := by
  induction h generalizing s with
  | nil => rfl
  | other hopen hclose _ ih =>
    rw [List.foldl_cons, ih, Piece.pass_other hopen hclose]
  | @pair inner rest _ _ ihinner ihrest =>
    rw [List.foldl_cons, List.foldl_append, List.foldl_cons, ihrest]
    show ((inner.foldl Piece.pass _).2).tail = s.2
    rw [ihinner]
    rfl

/-- The last character on a line, as far as a map is concerned. -/
theorem foldl_pass_before (pieces : List Piece) (stack : List Brace) :
    (pieces.foldl Piece.pass (none, stack)).1 = some '#' ↔
      (textOf pieces).getLast? = some '#' := by
  rcases List.eq_nil_or_concat pieces with rfl | ⟨front, piece, rfl⟩
  · simp
  rw [List.concat_eq_append, List.foldl_append, textOf_append]
  generalize front.foldl Piece.pass (none, stack) = s
  cases piece with
  | newline => simp [Piece.pass, Piece.chars]
  | char c => simp [Piece.pass, Piece.chars]
  | literal quote body =>
    have hchars : textOf [.literal quote body] = (quote :: body) ++ [quote] := by
      simp [Piece.chars]
    rw [hchars, ← List.append_assoc, List.getLast?_concat]
    exact Iff.rfl
  | unclosed quote body => simp [Piece.pass, Piece.chars, List.getLast?_append]
  | comment c body => simp [Piece.pass, Piece.chars, List.getLast?_append]

theorem openBraces_concat (pieces : List Piece) (piece : Piece) :
    openBraces (pieces ++ [piece]) = (piece.pass (pieces.foldl Piece.pass (none, []))).2 := by
  rw [openBraces, List.foldl_append]
  rfl

theorem opens_eq_map {pieces : List Piece} {stack : List Brace} :
    opens (pieces.foldl Piece.pass (none, stack)).1 = .map ↔
      (textOf pieces).getLast? = some '#' := by
  rw [← foldl_pass_before pieces stack, opens]
  split <;> simp [*]

/-- **An open brace** has its place, and what stands behind it is balanced. -/
theorem exists_opening {pieces : List Piece} {b : Brace} {stack : List Brace}
    (h : openBraces pieces = b :: stack) :
    ∃ outer inner, pieces = outer ++ .char '\x7b' :: inner ∧ Balanced inner ∧
      openBraces outer = stack ∧ (b = .map ↔ (textOf outer).getLast? = some '#') := by
  -- from the end of the pieces; a closing brace leads to the brace that it matches first
  induction hlength : pieces.length using Nat.strongRecOn generalizing pieces b stack with
  | ind n ih =>
  subst hlength
  rcases List.eq_nil_or_concat pieces with rfl | ⟨front, piece, rfl⟩
  · cases h
  rw [List.concat_eq_append] at h ih ⊢
  rw [openBraces_concat] at h
  have hfront : front.length < (front ++ [piece]).length := by simp
  by_cases hopen : piece = .char '\x7b'
  · subst hopen
    have h : opens (front.foldl Piece.pass (none, [])).1 :: openBraces front = b :: stack := h
    obtain ⟨rfl, rfl⟩ := List.cons.inj h
    exact ⟨front, [], rfl, .nil, rfl, opens_eq_map⟩
  by_cases hclose : piece = .char '\x7d'
  · subst hclose
    have h : (openBraces front).tail = b :: stack := h
    obtain ⟨b', hb'⟩ : ∃ b', openBraces front = b' :: b :: stack := by
      cases hbraces : openBraces front with
      | nil =>
        rw [hbraces] at h
        cases h
      | cons b' rest =>
        rw [hbraces] at h
        exact ⟨b', congrArg _ h⟩
    obtain ⟨outer', inner', rfl, hinner', houter', -⟩ := ih _ hfront hb' rfl
    have hshorter : outer'.length <
        (outer' ++ Piece.char '\x7b' :: inner' ++ [Piece.char '\x7d']).length := by
      simp only [List.length_append, List.length_cons]
      omega
    obtain ⟨outer, inner, rfl, hinner, houter, hmap⟩ := ih _ hshorter houter' rfl
    refine ⟨outer, inner ++ .char '\x7b' :: (inner' ++ [.char '\x7d']), by simp,
      hinner.append (.pair hinner' .nil), houter, hmap⟩
  · rw [Piece.pass_other hopen hclose] at h
    obtain ⟨outer, inner, rfl, hinner, houter, hmap⟩ := ih _ hfront h rfl
    exact ⟨outer, inner ++ [piece], by simp, hinner.append (.other hopen hclose .nil), houter, hmap⟩

/-- **A closing brace closes a map** just if the innermost open brace is that of a map. -/
theorem closesMap_iff {before : List Piece} :
    ClosesMap before ↔ (openBraces before).head? = some .map := by
  constructor
  · rintro ⟨outer, inner, rfl, hinner, hmap⟩
    have hopen : openBraces (outer ++ Piece.char '\x7b' :: inner) =
        opens (outer.foldl Piece.pass (none, [])).1 :: openBraces outer := by
      rw [openBraces, List.foldl_append, List.foldl_cons, hinner.foldl_pass]
      rfl
    rw [hopen, List.head?_cons, opens_eq_map.2 hmap]
  · intro h
    obtain ⟨stack, hstack⟩ := List.head?_eq_some_iff.1 h
    obtain ⟨outer, inner, hbefore, hinner, -, hmap⟩ := exists_opening hstack
    exact ⟨outer, inner, hbefore, hinner, hmap.1 rfl⟩

instance (before : List Piece) : Decidable (ClosesMap before) :=
  decidable_of_iff _ closesMap_iff.symm

/-! ### One line -/

/-- Blanks at the end of a line change no brace. -/
theorem trackFrom_blanks {quote before : Option Char} {t : Track} {kept blanks : List Char}
    (h : ∀ c ∈ blanks, Text.isBlank c = true) :
    trackFrom quote before t (kept ++ blanks) = trackFrom quote before t kept := by
  induction blanks using List.reverseRecOn with
  | nil => rw [List.append_nil]
  | append_singleton blanks c ih =>
    have hc : Text.isBlank c = true := h c (by simp)
    have hquote : isQuote c = false :=
      Bool.eq_false_iff.2 fun hquote => by simp [not_blank_of_quote hquote] at hc
    have hopen : c ≠ '\x7b' := by
      rintro rfl
      exact absurd hc (by decide)
    have hclose : c ≠ '\x7d' := by
      rintro rfl
      exact absurd hc (by decide)
    rw [← List.append_assoc, trackFrom_concat hquote hopen hclose,
      ih fun d hd => h d (List.mem_append_left _ hd)]

theorem trackFrom_trimEnd {quote before : Option Char} {t : Track} (text : List Char) :
    trackFrom quote before t (Text.trimEnd text) = trackFrom quote before t text := by
  obtain ⟨blanks, htext, hblanks⟩ := Text.trimEnd_append_blanks text
  have h : trackFrom quote before t (Text.trimEnd text ++ blanks) =
      trackFrom quote before t (Text.trimEnd text) := trackFrom_blanks hblanks
  rw [← htext] at h
  exact h.symm

/-- A literal that stays open has no braces. -/
theorem trackFrom_unclosed {quote : Char} {body : List Char} (h : ¬IsClosed quote body)
    (before : Option Char) (t : Track) : trackFrom (some quote) before t body = t := by
  generalize hopen : some quote = inside
  fun_induction trackFrom inside before t body with
  | case1 => rfl
  | case2 => rfl
  | case3 before t q d rest ih =>
    cases hopen
    refine ih ?_ rfl
    rintro ⟨front, back, rfl, hfront⟩
    exact h ⟨'\\' :: d :: front, back, rfl, .escaped d hfront⟩
  | case4 before t c rest q hslash ih =>
    cases hopen
    have hquote : c ≠ quote := by
      rintro rfl
      exact h ⟨[], rest, rfl, .nil⟩
    rw [if_neg hquote] at ih ⊢
    refine ih ?_ rfl
    rintro ⟨front, back, rfl, hfront⟩
    exact h ⟨c :: front, back, rfl, .plain hslash hquote hfront⟩
  | case5 | case6 | case7 | case8 => cases hopen

/-- A piece that does not run to the end of its line. -/
def Piece.IsInner : Piece → Prop
  | .char c => isQuote c = false
  | .literal quote body => isQuote quote = true ∧ Within quote body
  | _ => False

/-- **Behind pieces of a line** those braces are open that the pieces leave. -/
theorem trackFrom_inner {pieces : List Piece} (hinner : ∀ piece ∈ pieces, piece.IsInner)
    (before : Option Char) (t : Track) :
    ∃ closed, ∀ rest, trackFrom none before t (textOf pieces ++ rest) =
      trackFrom none (pieces.foldl Piece.pass (before, t.stack)).1
        ⟨(pieces.foldl Piece.pass (before, t.stack)).2, closed⟩ rest := by
  induction pieces generalizing before t with
  | nil => exact ⟨t.closed, fun rest => rfl⟩
  | cons piece pieces ih =>
    obtain ⟨hpiece, hpieces⟩ := List.forall_mem_cons.1 hinner
    -- one piece changes the track as it changes the open braces
    have hstep : ∃ t' : Track, (piece.pass (before, t.stack)).2 = t'.stack ∧
        ∀ rest, trackFrom none before t (piece.chars ++ rest) =
          trackFrom none (piece.pass (before, t.stack)).1 t' rest := by
      cases piece with
      | char c =>
        have hquote : isQuote c = false := hpiece
        by_cases hopen : c = '\x7b'
        · subst hopen
          exact ⟨t.opened (opens before), rfl, fun rest => rfl⟩
        by_cases hclose : c = '\x7d'
        · subst hclose
          exact ⟨t.close, rfl, fun rest => rfl⟩
        · refine ⟨t, by simp [Piece.pass, hopen, hclose], fun rest => ?_⟩
          exact trackFrom_outside _ _ _ (by simp [hquote]) hopen hclose
      | literal quote body =>
        obtain ⟨hquote, hbody⟩ := hpiece
        refine ⟨t, rfl, fun rest => ?_⟩
        have hwithin := trackFrom_within (ne_slash_of_quote hquote) hbody (some quote) t rest
        simp [Piece.chars, trackFrom_open _ _ _ hquote, hwithin, Piece.pass]
      | newline | unclosed | comment => cases hpiece
    obtain ⟨t', hstack, ht'⟩ := hstep
    obtain ⟨closed, hclosed⟩ := ih hpieces (piece.pass (before, t.stack)).1 t'
    refine ⟨closed, fun rest => ?_⟩
    have hpass : ((piece.pass (before, t.stack)).1, t'.stack) = piece.pass (before, t.stack) := by
      rw [← hstack]
    rw [textOf_cons, List.append_assoc, ht', hclosed, hpass, List.foldl_cons]

/-- Behind the end of a line stands no more of it. -/
theorem EndsLine.eq_nil {pieces back : List Piece} (h : EndsLine (pieces ++ back))
    (hline : .newline ∉ pieces) : pieces = [] := by
  cases pieces with
  | nil => rfl
  | cons first more =>
    rcases h with hnil | ⟨rest, hrest⟩
    · cases hnil
    · cases hrest
      exact absurd List.mem_cons_self hline

/-- The pieces of a line, but for a comment, are inner ones and perhaps a literal that stays open
behind them. -/
theorem Reading.exists_inner {line : List Char} {pieces back : List Piece}
    (h : Reading line (pieces ++ back)) (hline : .newline ∉ pieces)
    (hcomment : ∀ piece ∈ pieces, ¬piece.IsComment) :
    ∃ inner last, pieces = inner ++ last ∧ (∀ piece ∈ inner, piece.IsInner) ∧
      (last = [] ∨ ∃ quote body, last = [.unclosed quote body] ∧ isQuote quote = true ∧
        ¬IsClosed quote body) := by
  induction pieces generalizing line with
  | nil => exact ⟨[], [], rfl, nofun, .inl rfl⟩
  | cons piece pieces ih =>
    simp only [List.mem_cons, not_or] at hline
    obtain ⟨hpiece, hline⟩ := hline
    obtain ⟨hcode, hmore⟩ := List.forall_mem_cons.1 hcomment
    rw [List.cons_append] at h
    cases h with
    | newline _ => exact absurd rfl hpiece
    | char _ hquote _ h =>
      obtain ⟨inner, last, rfl, hinner, hlast⟩ := ih h hline hmore
      exact ⟨_ :: inner, last, rfl, List.forall_mem_cons.2 ⟨hquote, hinner⟩, hlast⟩
    | literal hquote hbody _ h =>
      obtain ⟨inner, last, rfl, hinner, hlast⟩ := ih h hline hmore
      exact ⟨_ :: inner, last, rfl, List.forall_mem_cons.2 ⟨⟨hquote, hbody⟩, hinner⟩, hlast⟩
    | @unclosed _ quote body _ hquote hopen _ hends _ =>
      exact ⟨[], [.unclosed quote body], by rw [hends.eq_nil hline]; rfl, nofun,
        .inr ⟨quote, body, rfl, hquote, hopen⟩⟩
    | comment => exact absurd trivial hcode

/-- The code of a line without blanks at its end, as the pieces that are no comment. -/
theorem Reading.exists_code {line : List Piece} (h : Reading [] line) (hline : .newline ∉ line) :
    ∃ inner last comments, line = inner ++ (last ++ comments) ∧
      (∀ piece ∈ inner, piece.IsInner) ∧
      (last = [] ∨ ∃ quote body, last = [.unclosed quote body] ∧ isQuote quote = true ∧
        ¬IsClosed quote body) ∧
      (comments = [] ∨ ∃ c body, comments = [.comment c body]) ∧
      code (textOf line) = Text.trimEnd (textOf (inner ++ last)) := by
  obtain ⟨front, comments, rfl, hfront, hcomments, hcode⟩ := codeFrom_pieces h hline
  obtain ⟨inner, last, rfl, hinner, hlast⟩ :=
    h.exists_inner (fun hmem => hline (List.mem_append_left _ hmem)) hfront
  refine ⟨inner, last, comments, List.append_assoc _ _ _, hinner, hlast, ?_,
    congrArg Text.trimEnd hcode⟩
  rcases hcomments with hnil | ⟨c, body, hcomment, -⟩
  · exact .inl hnil
  · exact .inr ⟨c, body, hcomment⟩

/-- **Behind a line** those braces are open that its pieces leave. -/
theorem track_line {line : List Piece} (h : Reading [] line) (hline : .newline ∉ line)
    (stack : List Brace) :
    (track stack (code (textOf line))).stack = (line.foldl Piece.pass (none, stack)).2 := by
  obtain ⟨inner, last, comments, rfl, hinner, hlast, hcomments, hcode⟩ := h.exists_code hline
  obtain ⟨closed, hclosed⟩ := trackFrom_inner hinner none ⟨stack, none⟩
  have hends : ∀ s, (comments.foldl Piece.pass s).2 = s.2 := by
    rcases hcomments with rfl | ⟨c, body, rfl⟩ <;> exact fun s => rfl
  rw [track, hcode, trackFrom_trimEnd, textOf_append, hclosed, List.foldl_append,
    List.foldl_append, hends]
  rcases hlast with rfl | ⟨quote, body, rfl, hquote, hopen⟩
  · rfl
  · have hbody : textOf [.unclosed quote body] = quote :: body := by simp [Piece.chars]
    rw [hbody, trackFrom_open _ _ _ hquote, trackFrom_unclosed hopen]
    rfl

/-- What a closing brace behind pieces of a line closes is the innermost open brace. -/
theorem track_closing {inside : List Piece} (hinner : ∀ piece ∈ inside, piece.IsInner)
    (stack : List Brace) :
    (track stack (textOf inside ++ ['\x7d'])).closed =
      (inside.foldl Piece.pass (none, stack)).2.head? := by
  obtain ⟨closed, hclosed⟩ := trackFrom_inner hinner none ⟨stack, none⟩
  rw [track, hclosed]
  rfl

/-- A closing brace that ends the code of a line stands on the line. -/
theorem exists_closing {pieces : List Piece} (hinner : ∀ piece ∈ pieces, piece.IsInner)
    (h : (Text.trimEnd (textOf pieces)).getLast? = some '\x7d') :
    ∃ inside trail, pieces = inside ++ .char '\x7d' :: trail ∧
      Text.trimEnd (textOf pieces) = textOf inside ++ ['\x7d'] := by
  induction pieces using List.reverseRecOn with
  | nil => cases h
  | append_singleton front piece ih =>
    have hfront : ∀ piece ∈ front, piece.IsInner :=
      fun piece hmem => hinner piece (List.mem_append_left _ hmem)
    have hpiece : piece.IsInner := hinner piece (by simp)
    cases piece with
    | char c =>
      have htext : textOf (front ++ [Piece.char c]) = textOf front ++ [c] := by simp [Piece.chars]
      rw [htext] at h ⊢
      by_cases hblank : Text.isBlank c = true
      · have htrim : Text.trimEnd (textOf front ++ [c]) = Text.trimEnd (textOf front) :=
          List.rdropWhile_concat_pos _ _ _ hblank
        rw [htrim] at h ⊢
        obtain ⟨inside, trail, rfl, hcode⟩ := ih hfront h
        exact ⟨inside, trail ++ [.char c], by simp, hcode⟩
      · have htrim : Text.trimEnd (textOf front ++ [c]) = textOf front ++ [c] :=
          List.rdropWhile_concat_neg _ _ _ hblank
        rw [htrim, List.getLast?_concat, Option.some.injEq] at h
        exact ⟨front, [], by rw [h], by rw [htrim, h]⟩
    | literal quote body =>
      -- the quote at the end is neither a blank nor a brace
      have htext : textOf (front ++ [Piece.literal quote body]) =
          (textOf front ++ quote :: body) ++ [quote] := by simp [Piece.chars]
      have hblank : ¬Text.isBlank quote = true := by simp [not_blank_of_quote hpiece.1]
      have htrim : Text.trimEnd ((textOf front ++ quote :: body) ++ [quote]) = _ :=
        List.rdropWhile_concat_neg _ _ _ hblank
      rw [htext, htrim, List.getLast?_concat, Option.some.injEq] at h
      rw [h] at hpiece
      exact absurd hpiece.1 (by decide)
    | newline | unclosed | comment => cases hpiece

/-! ### Lines -/

/-- What stands behind the end of a line starts no comment on it. -/
theorem startsComment_endsLine {back : List Piece} (hback : EndsLine back) {line text : List Char}
    {c : Char} :
    StartsComment line c (text ++ textOf back).head? ↔ StartsComment line c text.head? := by
  cases text with
  | cons d text => exact Iff.rfl
  | nil =>
    obtain rfl | ⟨more, rfl⟩ := hback
    · exact Iff.rfl
    · simp [StartsComment, Piece.chars]

/-- A line is read by itself. -/
theorem Reading.of_endsLine {line : List Char} {pieces back : List Piece}
    (h : Reading line (pieces ++ back)) (hline : .newline ∉ pieces) (hback : EndsLine back) :
    Reading line pieces := by
  induction pieces generalizing line with
  | nil => exact .nil
  | cons piece pieces ih =>
    simp only [List.mem_cons, not_or] at hline
    obtain ⟨hpiece, hline⟩ := hline
    rw [List.cons_append] at h
    cases h with
    | newline _ => exact absurd rfl hpiece
    | char hbreak hquote hcomment hmore =>
      rw [textOf_append, startsComment_endsLine hback] at hcomment
      exact .char hbreak hquote hcomment (ih hmore hline)
    | literal hquote hbody hbreak hmore => exact .literal hquote hbody hbreak (ih hmore hline)
    | unclosed hquote hopen hbreak hrest hmore =>
      exact .unclosed hquote hopen hbreak (.inl (hrest.eq_nil hline)) (ih hmore hline)
    | comment hstarts hbreak hrest hmore =>
      rw [textOf_append, ← List.append_assoc, startsComment_endsLine hback] at hstarts
      exact .comment hstarts hbreak (.inl (hrest.eq_nil hline)) (ih hmore hline)

/-- A carriage return behind a line is kept or goes with its comment. -/
theorem codeFrom_return (quote before : Option Char) (blank : Bool) (line : List Char) :
    codeFrom quote before blank (line ++ ['\r']) = codeFrom quote before blank line ∨
      codeFrom quote before blank (line ++ ['\r']) =
        codeFrom quote before blank line ++ ['\r'] := by
  fun_induction codeFrom quote before blank line with
  | case1 quote before blank =>
    refine .inr ?_
    cases quote with
    | none => exact codeFrom_outside (by decide) (by simp) (by simp)
    | some q =>
      rw [List.nil_append, codeFrom_inside _ _ _ (by decide)]
      rfl
  | case2 => exact .inr rfl
  | case3 before blank q d rest ih =>
    simpa only [List.cons_append, codeFrom_escape, List.cons.injEq, true_and] using ih
  | case4 before blank c rest q hslash ih =>
    simpa only [List.cons_append, codeFrom_inside _ _ _ hslash, List.cons.injEq, true_and] using ih
  | case5 before blank c rest hquote ih =>
    simpa only [List.cons_append, codeFrom_open _ _ _ hquote, List.cons.injEq, true_and] using ih
  | case6 before blank c rest hquote hslashes =>
    refine .inl ?_
    have hmore : c = '/' ∧ (rest ++ ['\r']).head? = some '/' := by
      rw [List.head?_append, hslashes.2]
      exact ⟨hslashes.1, rfl⟩
    rw [List.cons_append, codeFrom_slashes _ _ _ hquote hmore]
  | case7 before blank c rest hquote hslashes hhash =>
    refine .inl ?_
    have hstarts : c = '#' ∧ (rest ++ ['\r']).head? ≠ some '\x7b' ∧
        (blank ∨ before.any Text.isAsciiBlank) := by
      refine ⟨hhash.1, ?_, hhash.2.2⟩
      cases rest with
      | nil => simp
      | cons d rest => exact hhash.2.1
    rw [List.cons_append, codeFrom_hash hstarts]
  | case8 before blank c rest hquote hslashes hhash ih =>
    -- a carriage return is neither the second slash of a comment nor the brace of a map
    have hmore : ¬(c = '/' ∧ (rest ++ ['\r']).head? = some '/') ∧
        ¬(c = '#' ∧ (rest ++ ['\r']).head? ≠ some '\x7b' ∧
          (blank ∨ before.any Text.isAsciiBlank)) := by
      cases rest with
      | cons d rest => exact ⟨hslashes, hhash⟩
      | nil => exact ⟨by simp, fun h => hhash ⟨h.1, by simp, h.2.2⟩⟩
    simpa only [List.cons_append, codeFrom_outside hquote hmore.1 hmore.2, List.cons.injEq,
      true_and] using ih

/-- A carriage return before a line feed is no code. -/
theorem code_dropReturn (line : List Char) : code (Text.dropReturn line) = code line := by
  unfold Text.dropReturn
  split
  · rename_i hlast
    obtain ⟨front, rfl⟩ := List.getLast?_eq_some_iff.1 hlast
    rw [List.dropLast_concat, code, code]
    rcases codeFrom_return none none true front with h | h
    · rw [h]
    · rw [h]
      exact (List.rdropWhile_concat_pos _ _ _ rfl).symm
  · rfl

theorem lines_concat {line : List Char} (hbreak : '\n' ∉ line) :
    Text.lines (line ++ ['\n']) = [Text.dropReturn line] := by
  rw [Text.lines, Text.segments_append_break, segments_line hbreak]
  simp [Text.segments, Text.linesOfSegments]

/-- The first line of a text has the code of what is read up to the end of the line. -/
theorem exists_first_line {line back : List Piece} (hbreak : '\n' ∉ textOf line)
    (hline : textOf line ≠ []) (hback : EndsLine back) :
    ∃ first others, Text.lines (textOf line ++ textOf back) = first :: others ∧
      code first = code (textOf line) := by
  obtain rfl | ⟨more, rfl⟩ := hback
  · refine ⟨textOf line, [], ?_, rfl⟩
    simp [Text.lines, segments_line hbreak, Text.linesOfSegments, hline]
  · refine ⟨Text.dropReturn (textOf line), Text.lines (textOf more), ?_, code_dropReturn _⟩
    exact (Text.lines_append_break _ _).trans (by rw [lines_concat hbreak]; rfl)

/-- Behind complete pieces a line starts. -/
theorem Complete.foldl_pass {front : List Piece} (h : Complete front) :
    front.foldl Piece.pass (none, []) = (none, openBraces front) := by
  obtain rfl | ⟨front, rfl⟩ := h
  · rfl
  · rw [openBraces, List.foldl_append]
    rfl

theorem Complete.openBraces_append {front : List Piece} (h : Complete front) (pieces : List Piece) :
    openBraces (front ++ pieces) = (pieces.foldl Piece.pass (none, openBraces front)).2 := by
  rw [openBraces, List.foldl_append, h.foldl_pass]

/-- **Behind complete lines** those braces are open that all their pieces leave. -/
theorem prepareLines_complete {front back : List Piece} (h : Reading [] (front ++ back))
    (hfront : Complete front) (rest : List (List Char)) :
    prepareLines [] (Text.lines (textOf front) ++ rest) =
      prepareLines [] (Text.lines (textOf front)) ++ prepareLines (openBraces front) rest := by
  -- from the last line to those before it
  induction hlength : front.length using Nat.strongRecOn generalizing front back rest with
  | ind n ih =>
  subst hlength
  obtain rfl | ⟨pieces, rfl⟩ := hfront
  · rfl
  obtain ⟨front, line, rfl, hcomplete, hline⟩ := exists_complete pieces
  have hall : Reading [] (front ++ (line ++ Piece.newline :: back)) := by simpa using h
  have hbehind := hall.behind hcomplete
  have hread : Reading [] line := hbehind.of_endsLine hline (.inr ⟨back, rfl⟩)
  have hlines : Text.lines (textOf (front ++ line ++ [Piece.newline])) =
      Text.lines (textOf front) ++ [Text.dropReturn (textOf line)] := by
    have htext : textOf (front ++ line ++ [Piece.newline]) =
        textOf front ++ (textOf line ++ ['\n']) := by
      simp [Piece.chars]
    rw [htext, hcomplete.lines, lines_concat (hbehind.break_not_mem hline)]
  have hopen : openBraces (front ++ line ++ [Piece.newline]) =
      (track (openBraces front) (code (textOf line))).stack := by
    rw [openBraces_concat, track_line hread hline, ← hcomplete.openBraces_append]
    rfl
  have hshorter : front.length < (front ++ line ++ [Piece.newline]).length := by
    simp only [List.length_append, List.length_singleton]
    omega
  have hbefore (rest : List (List Char)) := ih front.length hshorter hall hcomplete rest rfl
  rw [hlines, hopen, List.append_assoc, hbefore, hbefore, List.append_assoc]
  simp only [List.singleton_append, prepareLines, code_dropReturn]

/-! ### Closing braces at the ends of lines -/

/-- A line that ends in a closing brace gets a semicolon just if the brace closes a map. -/
theorem terminated_closing (code : List Char) (closed : Option Brace) :
    terminated (code ++ ['\x7d']) closed =
      code ++ ['\x7d'] ++ if closed = some .map then [';'] else [] := by
  by_cases hmap : closed = some .map <;> simp [terminated, needsTerminator, hmap]

/-- **Closing braces.** Every text is read as pieces. Where a line on which no literal stays open
ends in a closing brace, without its comment and the blanks before that, the line is prepared to
what is left of it, and a semicolon if the brace matches that of a map in all the text before it.
What stands before the line is prepared by itself. -/
theorem prepareChars_closing_brace (text : List Char) :
    (∃ pieces, Reading [] pieces ∧ textOf pieces = text) ∧
    ∀ front line back : List Piece,
      Reading [] (front ++ (line ++ back)) → textOf (front ++ (line ++ back)) = text →
      Complete front → .newline ∉ line → EndsLine back →
      (∀ quote body, .unclosed quote body ∉ line) →
      (code (textOf line)).getLast? = some '\x7d' →
      ∃ inside trail rest, line = inside ++ .char '\x7d' :: trail ∧
        code (textOf line) = textOf inside ++ ['\x7d'] ∧
        prepareChars text = prepareChars (textOf front) ++
          (code (textOf line) ++ (if ClosesMap (front ++ inside) then [';'] else []) ++
            '\n' :: rest) := by
  refine ⟨exists_reading [] text, ?_⟩
  rintro front line back h rfl hfront hline hback hclosed hlast
  have hbehind := h.behind hfront
  obtain ⟨inner, last, comments, rfl, hinner, hopen, -, hcode⟩ :=
    (hbehind.of_endsLine hline hback).exists_code hline
  have hnil : last = [] := by
    rcases hopen with hnil | ⟨quote, body, rfl, -⟩
    · exact hnil
    · exact absurd (by simp) (hclosed quote body)
  subst hnil
  rw [List.append_nil] at hcode
  obtain ⟨inside, trail, rfl, htrim⟩ := exists_closing hinner (hcode ▸ hlast)
  have hcode := hcode.trans htrim
  have hne : textOf (inside ++ Piece.char '\x7d' :: trail ++ ([] ++ comments)) ≠ [] := by
    simp [Piece.chars]
  obtain ⟨first, others, hlines, hfirst⟩ :=
    exists_first_line (hbehind.break_not_mem hline) hne hback
  -- the brace closes what is open before it in the whole text
  have hmap : (track (openBraces front) (textOf inside ++ ['\x7d'])).closed = some .map ↔
      ClosesMap (front ++ inside) := by
    have hinside : ∀ piece ∈ inside, piece.IsInner :=
      fun piece hmem => hinner piece (List.mem_append_left _ hmem)
    rw [track_closing hinside, closesMap_iff, hfront.openBraces_append]
  refine ⟨inside, trail ++ comments, (prepareLines
    (track (openBraces front) (textOf inside ++ ['\x7d'])).stack others).flatMap (· ++ ['\n']),
    by simp, hcode, ?_⟩
  rw [textOf_append, textOf_append, prepareChars, hfront.lines, hlines,
    prepareLines_complete h hfront, List.flatMap_append, ← prepareChars, prepareLines,
    List.flatMap_cons, hfirst, hcode, terminated_closing, List.append_assoc _ ['\n']]
  simp only [hmap]
  rfl

section Nested

/-- A map over several lines, with other braces in a comment and in a literal. -/
def nested : List Piece :=
  "let m = ".toList.map .char ++ [.char '#', .char '\x7b', .char ' ', .comment '/' "/ \x7d".toList,
    .newline] ++ ("a: ".toList.map .char ++ [.literal '"' ['\x7d'], .newline])

theorem reading_nested : Reading [] (nested ++ ([.char '\x7d'] ++ [])) := by
  have hlast : Reading [] [.char '\x7d'] := .char (by decide) rfl (by simp [StartsComment]) .nil
  have hsecond : Reading [] ("a: ".toList.map .char ++
      [.literal '"' ['\x7d'], .newline, .char '\x7d']) :=
    .chars (by simp [isOrdinary, isQuote])
      (.literal rfl (within_of_forall (by simp)) (by decide) (.newline hlast))
  refine @Reading.chars [] "let m = ".toList _ (by simp [isOrdinary, isQuote]) ?_
  refine .char (by decide) rfl (by simp [StartsComment, Piece.chars]) ?_
  refine .char (by decide) rfl (by simp [StartsComment]) ?_
  refine .char (by decide) rfl (by simp [StartsComment]) ?_
  exact .comment (.inl ⟨rfl, rfl⟩) (by decide) (.inr ⟨_, rfl⟩) (.newline hsecond)

/-- The brace on the third line closes the map. -/
theorem prepareChars_closing_brace_nested :
    "\x7d;\n".toList <:+:
      prepareChars "let m = #\x7b // \x7d\na: \"\x7d\"\n\x7d".toList := by
  obtain ⟨-, hbrace⟩ :=
    prepareChars_closing_brace "let m = #\x7b // \x7d\na: \"\x7d\"\n\x7d".toList
  obtain ⟨inside, trail, rest, hline, hcode, hprepared⟩ := hbrace nested [.char '\x7d'] []
    reading_nested rfl (.inr ⟨nested.dropLast, rfl⟩) (by simp) (.inl rfl) (by simp) (by decide)
  have hinside : inside = [] := by
    cases inside with
    | nil => rfl
    | cons piece inside => cases inside <;> cases hline
  have hcode : code (textOf [.char '\x7d']) = ['\x7d'] := by decide
  have hmap : ClosesMap (nested ++ []) := by decide
  rw [hinside, hcode, if_pos hmap] at hprepared
  exact ⟨prepareChars (textOf nested), rest, by rw [hprepared]; simp⟩

end Nested

/-- **A map that is not terminated.** A template with a backslash in it is closed before the brace
that closes the map, but is taken to stay open. -/
theorem map_not_terminated :
    (lexemes "let m = #\x7ba: \x60\\\x60\x7d").map (·.token) =
        [.keyword .declare, .name "m", .assign none, .mark .openMap, .name "a", .mark .colon,
          .template "\\" false, .mark .closeBrace, .finish] ∧
      prepare "let m = #\x7ba: \x60\\\x60\x7d" = "let m = #\x7ba: \x60\\\x60\x7d\n" := by
  constructor
  · rfl
  · decide +kernel

end VectorScene.Script
