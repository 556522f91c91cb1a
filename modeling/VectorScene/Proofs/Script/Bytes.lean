import VectorScene.Proofs.Script.Pieces

/-!
# Scripts as bytes

The readers of comments and braces can go from byte to byte through a line in UTF-8, as all that
they look for are ASCII characters. A backslash takes one byte with it then, which may be the first
one of several that encode a character: the others are passed as if they stood for themselves. The
line is cut where a byte starts a comment, and what stands before a `#` is looked at as a text, so
that a cut inside of a character would be a failure. There is none.

## Main definitions

* `encoded`, `slice?`: the bytes of a text, and the text of bytes that are cut from others
* `codeBytes`, `trackBytes`: a line without its comment and the braces on it, byte by byte
* `prepareBytes?`: a script that is prepared byte by byte

## Main results

* `codeBytes_encoded`, `trackBytes_encoded`: the readers agree with those of characters
* `prepareBytes?_eq`: no script is cut inside of a character
-/

namespace VectorScene.Script

/-! ### Bytes of characters -/

/-- The bytes of a text in UTF-8. -/
def encoded (text : List Char) : List UInt8 := text.flatMap String.utf8EncodeChar

/-- The text of bytes that are cut from others, unless the cut is inside of a character. -/
def slice? (bytes : List UInt8) : Option (List Char) :=
  bytes.toByteArray.utf8Decode?.map Array.toList

@[simp] theorem encoded_nil : encoded [] = [] := rfl

@[simp] theorem encoded_cons (c : Char) (rest : List Char) :
    encoded (c :: rest) = String.utf8EncodeChar c ++ encoded rest := List.flatMap_cons

@[simp] theorem encoded_append (front back : List Char) :
    encoded (front ++ back) = encoded front ++ encoded back := List.flatMap_append

@[simp] theorem slice?_encoded (text : List Char) : slice? (encoded text) = some text := by
  have hdecode : (encoded text).toByteArray.utf8Decode? = some text.toArray :=
    List.utf8Decode?_utf8Encode
  simp [slice?, hdecode]

/-- A byte that is no character of its own. -/
def IsHigh (b : UInt8) : Prop := 128 ≤ b.toNat

theorem IsHigh.ne_toUInt8 {b : UInt8} (h : IsHigh b) {c : Char} (hc : c.toNat < 128) :
    b ≠ c.toUInt8 := by
  rintro rfl
  unfold IsHigh at h
  have hbyte : c.toUInt8.toNat = c.toNat % 256 := rfl
  omega

/-- An ASCII character is one byte. -/
theorem encodeChar_ascii {c : Char} (h : c.toNat < 128) :
    String.utf8EncodeChar c = [c.toUInt8] := by
  have hsmall : c.val.toNat ≤ 127 := Nat.le_of_lt_succ h
  rw [String.utf8EncodeChar]
  simp only [if_pos hsmall]
  rfl

theorem encodeChar_backslash : String.utf8EncodeChar '\\' = ['\\'.toUInt8] :=
  encodeChar_ascii (by decide)

/-- The bytes of any other character are high. -/
theorem encodeChar_high {c : Char} (h : ¬c.toNat < 128) :
    String.utf8EncodeChar c ≠ [] ∧ ∀ b ∈ String.utf8EncodeChar c, IsHigh b := by
  have hlarge : ¬c.val.toNat ≤ 127 := fun hle => h (Nat.lt_succ_of_le hle)
  rw [String.utf8EncodeChar]
  simp only [if_neg hlarge]
  constructor
  · split
    · simp
    · split <;> simp
  · unfold IsHigh
    split
    · simp; omega
    · split <;> simp <;> omega

theorem toUInt8_inj {c d : Char} (hc : c.toNat < 128) (hd : d.toNat < 128) :
    c.toUInt8 = d.toUInt8 ↔ c = d := by
  constructor
  · intro h
    have hbytes : c.toUInt8.toNat = d.toUInt8.toNat := by rw [h]
    have hc' : c.toUInt8.toNat = c.toNat % 256 := rfl
    have hd' : d.toUInt8.toNat = d.toNat % 256 := rfl
    exact Char.toNat_inj.1 (by omega)
  · rintro rfl
    rfl

theorem toUInt8_ne {c d : Char} (hc : c.toNat < 128) (hd : d.toNat < 128) (h : c ≠ d) :
    c.toUInt8 ≠ d.toUInt8 :=
  fun hbytes => h ((toUInt8_inj hc hd).1 hbytes)

/-- An ASCII character is the first of a text if it is the first byte. -/
theorem head?_encoded {c : Char} (hc : c.toNat < 128) (text : List Char) :
    (encoded text).head? = some c.toUInt8 ↔ text.head? = some c := by
  cases text with
  | nil => simp
  | cons d rest =>
    rw [encoded_cons, List.head?_cons, Option.some.injEq]
    by_cases hd : d.toNat < 128
    · rw [encodeChar_ascii hd, List.singleton_append, List.head?_cons, Option.some.injEq]
      exact toUInt8_inj hd hc
    · obtain ⟨hne, hhigh⟩ := encodeChar_high hd
      obtain ⟨b, more, hbytes⟩ := List.exists_cons_of_ne_nil hne
      rw [hbytes] at hhigh ⊢
      constructor
      · intro h
        cases h
        exact absurd rfl ((hhigh _ List.mem_cons_self).ne_toUInt8 hc)
      · rintro rfl
        exact absurd hc hd

/-! ### The comment of a line -/

/-- The bytes that open and close a literal. -/
def isQuoteByte (b : UInt8) : Bool :=
  b == '"'.toUInt8 || b == '\x60'.toUInt8 || b == '\''.toUInt8

/-- The bytes of the blanks among the ASCII characters, without the vertical tab. -/
def isBlankByte (b : UInt8) : Bool :=
  b == ' '.toUInt8 || b == '\t'.toUInt8 || b == '\n'.toUInt8 || b == '\x0c'.toUInt8 ||
    b == '\r'.toUInt8

/-- The text up to its comment, read byte by byte. The quote of a literal that is open is given, and
the bytes that have been read. A backslash in a literal takes the next byte with it. -/
def codeBytes (quote : Option UInt8) (front : List UInt8) : List UInt8 → Option (List Char)
  | [] => slice? front
  | b :: rest =>
    match quote with
    | some q =>
      if b = '\\'.toUInt8 then
        match rest with
        | [] => slice? (front ++ [b])
        | d :: rest => codeBytes quote (front ++ [b, d]) rest
      else codeBytes (if b = q then none else quote) (front ++ [b]) rest
    | none =>
      if isQuoteByte b then codeBytes (some b) (front ++ [b]) rest
      else if b = '/'.toUInt8 ∧ rest.head? = some '/'.toUInt8 then slice? front
      else if b = '#'.toUInt8 ∧ rest.head? ≠ some '\x7b'.toUInt8 then
        match slice? front with
        | none => none
        | some text =>
          if text.all Text.isBlank ∨ front.getLast?.any isBlankByte then some text
          else codeBytes none (front ++ [b]) rest
      else codeBytes none (front ++ [b]) rest

section Bytewise

variable (front : List UInt8) {q b d : UInt8} (rest : List UInt8)

theorem codeBytes_nil (quote : Option UInt8) : codeBytes quote front [] = slice? front := rfl

theorem codeBytes_taken : codeBytes (some q) front ('\\'.toUInt8 :: d :: rest) =
    codeBytes (some q) (front ++ ['\\'.toUInt8, d]) rest :=
  if_pos rfl

theorem codeBytes_within (hslash : b ≠ '\\'.toUInt8) : codeBytes (some q) front (b :: rest) =
    codeBytes (if b = q then none else some q) (front ++ [b]) rest := by
  cases rest with
  | nil => exact if_neg hslash
  | cons d rest => exact if_neg hslash

/-- Outside of literals a quote opens one, and the line may be cut. -/
theorem codeBytes_cons : codeBytes none front (b :: rest) =
    if isQuoteByte b then codeBytes (some b) (front ++ [b]) rest
    else if b = '/'.toUInt8 ∧ rest.head? = some '/'.toUInt8 then slice? front
    else if b = '#'.toUInt8 ∧ rest.head? ≠ some '\x7b'.toUInt8 then
      match slice? front with
      | none => none
      | some text =>
        if text.all Text.isBlank ∨ front.getLast?.any isBlankByte then some text
        else codeBytes none (front ++ [b]) rest
    else codeBytes none (front ++ [b]) rest := rfl

end Bytewise

theorem isQuoteByte_toUInt8 {c : Char} (hc : c.toNat < 128) :
    isQuoteByte c.toUInt8 = isQuote c := by
  have hbyte : ∀ d : Char, d.toNat < 128 → (c.toUInt8 == d.toUInt8) = (c == d) := fun d hd =>
    Bool.eq_iff_iff.2 (by simpa using toUInt8_inj hc hd)
  rw [isQuoteByte, isQuote, hbyte _ (by decide), hbyte _ (by decide), hbyte _ (by decide)]

theorem isBlankByte_toUInt8 {c : Char} (hc : c.toNat < 128) :
    isBlankByte c.toUInt8 = Text.isAsciiBlank c := by
  have hbyte : ∀ d : Char, d.toNat < 128 → (c.toUInt8 == d.toUInt8) = (c == d) := fun d hd =>
    Bool.eq_iff_iff.2 (by simpa using toUInt8_inj hc hd)
  rw [isBlankByte, Text.isAsciiBlank, hbyte _ (by decide), hbyte _ (by decide),
    hbyte _ (by decide), hbyte _ (by decide), hbyte _ (by decide)]

theorem IsHigh.not_quote {b : UInt8} (h : IsHigh b) : isQuoteByte b = false := by
  simp [isQuoteByte, h.ne_toUInt8]

theorem IsHigh.not_blank {b : UInt8} (h : IsHigh b) : isBlankByte b = false := by
  simp [isBlankByte, h.ne_toUInt8]

/-- A text ends in a blank if its last byte is one. -/
theorem getLast?_encoded (text : List Char) :
    (encoded text).getLast?.any isBlankByte = text.getLast?.any Text.isAsciiBlank := by
  rcases List.eq_nil_or_concat text with rfl | ⟨front, c, rfl⟩
  · rfl
  rw [List.concat_eq_append, encoded_append, List.getLast?_concat, Option.any_some, encoded_cons,
    encoded_nil, List.append_nil]
  by_cases hc : c.toNat < 128
  · rw [encodeChar_ascii hc, List.getLast?_concat, Option.any_some, isBlankByte_toUInt8 hc]
  · obtain ⟨hne, hhigh⟩ := encodeChar_high hc
    have hblank : Text.isAsciiBlank c = false := by
      have hne : ∀ d : Char, d.toNat < 128 → c ≠ d := by
        rintro d hd rfl
        exact hc hd
      simp [Text.isAsciiBlank, hne]
    rw [List.getLast?_append, List.getLast?_eq_some_getLast hne, Option.some_or, Option.any_some,
      hblank]
    exact (hhigh _ (List.getLast_mem hne)).not_blank

/-- High bytes are passed, inside a literal and outside. -/
theorem codeBytes_high {quote : Option UInt8} (hquote : ∀ q, quote = some q → ¬IsHigh q)
    {bytes : List UInt8} (h : ∀ b ∈ bytes, IsHigh b) (front rest : List UInt8) :
    codeBytes quote front (bytes ++ rest) = codeBytes quote (front ++ bytes) rest := by
  induction bytes generalizing front with
  | nil => simp
  | cons b bytes ih =>
    obtain ⟨hb, hbytes⟩ := List.forall_mem_cons.1 h
    have hslash : b ≠ '\\'.toUInt8 := hb.ne_toUInt8 (by decide)
    have hdivide : b ≠ '/'.toUInt8 := hb.ne_toUInt8 (by decide)
    have hhash : b ≠ '#'.toUInt8 := hb.ne_toUInt8 (by decide)
    have hstep : codeBytes quote front (b :: (bytes ++ rest)) =
        codeBytes quote (front ++ [b]) (bytes ++ rest) := by
      cases quote with
      | none => simp [codeBytes_cons, hb.not_quote, hdivide, hhash]
      | some q =>
        have hother : b ≠ q := by
          rintro rfl
          exact hquote _ rfl hb
        rw [codeBytes_within _ _ hslash, if_neg hother]
    rw [List.cons_append, hstep, ih hbytes, List.append_assoc, List.singleton_append]

theorem ascii_of_quote {c : Char} (h : isQuote c = true) : c.toNat < 128 := by
  obtain rfl | rfl | rfl := isQuote_iff.1 h <;> decide

theorem not_high_of_quote {quote : Char} (hquote : isQuote quote = true) :
    ∀ q, some quote.toUInt8 = some q → ¬IsHigh q := by
  rintro q ⟨⟩ hhigh
  exact hhigh.ne_toUInt8 (ascii_of_quote hquote) rfl

/-- What is open behind a character of a literal is a literal of the same quote. -/
theorem isQuote_of_open {quote c : Char} (hquote : isQuote quote = true) :
    ∀ q, (if c = quote then none else some quote) = some q → isQuote q = true := by
  intro q hq
  split at hq
  · cases hq
  · cases hq
    exact hquote

/-- Every character has a first byte, and those behind it are high. -/
theorem exists_encodeChar (c : Char) :
    ∃ b more, String.utf8EncodeChar c = b :: more ∧ ∀ b ∈ more, IsHigh b := by
  by_cases hc : c.toNat < 128
  · exact ⟨c.toUInt8, [], encodeChar_ascii hc, nofun⟩
  · obtain ⟨hne, hhigh⟩ := encodeChar_high hc
    obtain ⟨b, more, hbytes⟩ := List.exists_cons_of_ne_nil hne
    rw [hbytes] at hhigh
    exact ⟨b, more, hbytes, fun b hb => hhigh b (List.mem_cons_of_mem _ hb)⟩

/-! One character is read as its bytes are. -/

section Steps

variable {quote c : Char} (seen rest : List Char)

theorem codeBytes_escape (hquote : isQuote quote = true) :
    codeBytes (some quote.toUInt8) (encoded seen) (encoded ('\\' :: c :: rest)) =
      codeBytes (some quote.toUInt8) (encoded (seen ++ ['\\', c])) (encoded rest) := by
  -- the byte that the backslash takes with it is the first one of the next character
  obtain ⟨b, more, hbytes, hmore⟩ := exists_encodeChar c
  have hslash := encodeChar_backslash
  have hlow := not_high_of_quote hquote
  simp only [encoded_cons, encoded_append, encoded_nil, hslash, hbytes, List.cons_append,
    List.nil_append, List.append_nil, codeBytes_taken, codeBytes_high hlow hmore,
    List.append_assoc]

theorem codeBytes_inside (hquote : isQuote quote = true) (hslash : c ≠ '\\') :
    codeBytes (some quote.toUInt8) (encoded seen) (encoded (c :: rest)) =
      codeBytes ((if c = quote then none else some quote).map Char.toUInt8) (encoded (seen ++ [c]))
        (encoded rest) := by
  have hascii := ascii_of_quote hquote
  by_cases hc : c.toNat < 128
  · have hbyte : c.toUInt8 ≠ '\\'.toUInt8 := toUInt8_ne hc (by decide) hslash
    rw [encoded_cons, encodeChar_ascii hc, List.singleton_append, codeBytes_within _ _ hbyte]
    simp only [toUInt8_inj hc hascii, encoded_append, encoded_cons, encoded_nil,
      encodeChar_ascii hc, List.append_nil]
    split <;> rfl
  · have hother : c ≠ quote := by
      rintro rfl
      exact hc hascii
    have hlow := not_high_of_quote hquote
    rw [if_neg hother, encoded_cons, codeBytes_high hlow (encodeChar_high hc).2, encoded_append,
      encoded_cons, encoded_nil, List.append_nil]
    rfl

theorem codeBytes_open (hquote : isQuote c = true) :
    codeBytes none (encoded seen) (encoded (c :: rest)) =
      codeBytes (some c.toUInt8) (encoded (seen ++ [c])) (encoded rest) := by
  have hc := ascii_of_quote hquote
  have hbyte : isQuoteByte c.toUInt8 = true := (isQuoteByte_toUInt8 hc).trans hquote
  rw [encoded_cons, encodeChar_ascii hc, List.singleton_append, codeBytes_cons]
  simp [hbyte, encodeChar_ascii hc]

/-- What is looked at where `#` stands outside of literals, unless it opens a map. -/
theorem codeBytes_hash (hnext : rest.head? ≠ some '\x7b') :
    codeBytes none (encoded seen) (encoded ('#' :: rest)) =
      if seen.all Text.isBlank ∨ seen.getLast?.any Text.isAsciiBlank then some seen
      else codeBytes none (encoded (seen ++ ['#'])) (encoded rest) := by
  have hhash : String.utf8EncodeChar '#' = ['#'.toUInt8] := encodeChar_ascii (by decide)
  have hbrace : (encoded rest).head? ≠ some '\x7b'.toUInt8 := fun h =>
    hnext ((head?_encoded (by decide) rest).1 h)
  have hquote : ¬isQuoteByte '#'.toUInt8 = true := by decide
  have hslashes : ¬('#'.toUInt8 = '/'.toUInt8 ∧ (encoded rest).head? = some '/'.toUInt8) := by
    rintro ⟨h, -⟩
    exact absurd h (by decide)
  rw [encoded_cons, hhash, List.singleton_append, codeBytes_cons]
  simp only [if_neg hquote, if_neg hslashes, true_and, if_pos hbrace, slice?_encoded,
    getLast?_encoded, encoded_append, encoded_cons, hhash, encoded_nil, List.append_nil]

theorem codeBytes_outside {seen rest : List Char} (hquote : ¬isQuote c = true)
    (hslashes : ¬(c = '/' ∧ rest.head? = some '/'))
    (hhash : ¬(c = '#' ∧ rest.head? ≠ some '\x7b' ∧
      (seen.all Text.isBlank ∨ seen.getLast?.any Text.isAsciiBlank))) :
    codeBytes none (encoded seen) (encoded (c :: rest)) =
      codeBytes none (encoded (seen ++ [c])) (encoded rest) := by
  by_cases hsharp : c = '#' ∧ rest.head? ≠ some '\x7b'
  · obtain ⟨rfl, hnext⟩ := hsharp
    rw [codeBytes_hash seen rest hnext, if_neg fun hplace => hhash ⟨rfl, hnext, hplace⟩]
  by_cases hc : c.toNat < 128
  · have hbyte : ¬isQuoteByte c.toUInt8 = true := by rwa [isQuoteByte_toUInt8 hc]
    have hslashes' : ¬(c.toUInt8 = '/'.toUInt8 ∧ (encoded rest).head? = some '/'.toUInt8) := by
      rwa [toUInt8_inj hc (by decide), head?_encoded (by decide)]
    have hsharp' : ¬(c.toUInt8 = '#'.toUInt8 ∧ (encoded rest).head? ≠ some '\x7b'.toUInt8) := by
      rwa [toUInt8_inj hc (by decide), Ne, head?_encoded (by decide)]
    rw [encoded_cons, encodeChar_ascii hc, List.singleton_append, codeBytes_cons]
    simp only [if_neg hbyte, if_neg hslashes', if_neg hsharp', encoded_append, encoded_cons,
      encodeChar_ascii hc, encoded_nil, List.append_nil]
  · have hlow : ∀ q, none = some q → ¬IsHigh q := by rintro q ⟨⟩
    rw [encoded_cons, codeBytes_high hlow (encodeChar_high hc).2, encoded_append, encoded_cons,
      encoded_nil, List.append_nil]

end Steps

/-- **Byte by byte** the same comment is found, and no cut is inside of a character. -/
theorem codeBytes_encoded_from {quote before : Option Char} {blank : Bool} {seen rest : List Char}
    (hquote : ∀ q, quote = some q → isQuote q = true)
    (hbefore : quote = none → before = seen.getLast? ∧ blank = seen.all Text.isBlank) :
    codeBytes (quote.map Char.toUInt8) (encoded seen) (encoded rest) =
      some (seen ++ codeFrom quote before blank rest) := by
  fun_induction codeFrom quote before blank rest generalizing seen with
  | case1 quote before blank => simp [codeBytes_nil]
  | case2 before blank q =>
    have hend : slice? (encoded (seen ++ ['\\'])) = some (seen ++ ['\\']) := slice?_encoded _
    have hslash := encodeChar_backslash
    rw [encoded_append, encoded_cons, hslash] at hend
    rw [Option.map_some, encoded_cons, hslash]
    exact (if_pos rfl).trans hend
  | case3 before blank q d rest ih =>
    rw [Option.map_some, codeBytes_escape _ _ (hquote q rfl)]
    have hnext := @ih (seen ++ ['\\', d]) hquote nofun
    simpa using hnext
  | case4 before blank c rest q hslash ih =>
    rw [Option.map_some, codeBytes_inside _ _ (hquote q rfl) hslash]
    have hinside := isQuote_of_open (c := c) (hquote q rfl)
    -- a literal is closed by its quote, which is no blank
    have hclosed : (if c = q then none else some q) = none →
        some c = (seen ++ [c]).getLast? ∧ false = (seen ++ [c]).all Text.isBlank := by
      intro hnone
      by_cases hc : c = q
      · simp [hc, not_blank_of_quote (hquote q rfl)]
      · rw [if_neg hc] at hnone
        cases hnone
    have hnext := ih hinside hclosed
    simpa using hnext
  | case5 before blank c rest hopen ih =>
    rw [Option.map_none, codeBytes_open _ _ hopen]
    have hnext := @ih (seen ++ [c]) (by rintro q ⟨⟩; exact hopen) nofun
    simpa using hnext
  | case6 before blank c rest hopen hslashes =>
    obtain ⟨rfl, hnext⟩ := hslashes
    have hslash : String.utf8EncodeChar '/' = ['/'.toUInt8] := encodeChar_ascii (by decide)
    have hquote : ¬isQuoteByte '/'.toUInt8 = true := by decide
    rw [Option.map_none, encoded_cons, hslash, List.singleton_append, codeBytes_cons]
    simp [hquote, (head?_encoded (by decide) rest).2 hnext]
  | case7 before blank c rest hopen hslashes hhash =>
    obtain ⟨rfl, rfl⟩ := hbefore rfl
    obtain ⟨rfl, hnext, hplace⟩ := hhash
    rw [Option.map_none, codeBytes_hash _ _ hnext, if_pos hplace, List.append_nil]
  | case8 before blank c rest hopen hslashes hhash ih =>
    obtain ⟨rfl, rfl⟩ := hbefore rfl
    rw [Option.map_none, codeBytes_outside hopen hslashes hhash]
    have hnext := @ih (seen ++ [c]) nofun fun _ => by simp
    simpa using hnext

theorem codeBytes_encoded (line : List Char) :
    codeBytes none [] (encoded line) = some (codeFrom none none true line) := by
  have hline := @codeBytes_encoded_from none none true [] line nofun fun _ => ⟨rfl, rfl⟩
  simpa using hline

/-! ### The braces of a line -/

/-- The track behind a text, read byte by byte, with the open literal and the byte before the
text. -/
def trackBytes (quote : Option UInt8) (before : Option UInt8) (t : Track) : List UInt8 → Track
  | [] => t
  | b :: rest =>
    match quote with
    | some q =>
      if b = '\\'.toUInt8 then
        match rest with
        | [] => t
        | d :: rest => trackBytes quote (some d) t rest
      else trackBytes (if b = q then none else quote) (some b) t rest
    | none =>
      if isQuoteByte b then trackBytes (some b) (some b) t rest
      else if b = '\x7b'.toUInt8 then
        trackBytes none (some b)
          (t.opened (if before = some '#'.toUInt8 then .map else .block)) rest
      else if b = '\x7d'.toUInt8 then trackBytes none (some b) t.close rest
      else trackBytes none (some b) t rest

section Bytewise

variable (quote before : Option UInt8) (t : Track) {q b d : UInt8} (rest : List UInt8)

theorem trackBytes_nil : trackBytes quote before t [] = t := rfl

theorem trackBytes_last : trackBytes (some q) before t ['\\'.toUInt8] = t := if_pos rfl

theorem trackBytes_taken : trackBytes (some q) before t ('\\'.toUInt8 :: d :: rest) =
    trackBytes (some q) (some d) t rest :=
  if_pos rfl

theorem trackBytes_within (hslash : b ≠ '\\'.toUInt8) : trackBytes (some q) before t (b :: rest) =
    trackBytes (if b = q then none else some q) (some b) t rest := by
  cases rest with
  | nil => exact if_neg hslash
  | cons d rest => exact if_neg hslash

/-- Outside of literals a quote opens one, and braces are counted. -/
theorem trackBytes_cons : trackBytes none before t (b :: rest) =
    if isQuoteByte b then trackBytes (some b) (some b) t rest
    else if b = '\x7b'.toUInt8 then
      trackBytes none (some b) (t.opened (if before = some '#'.toUInt8 then .map else .block)) rest
    else if b = '\x7d'.toUInt8 then trackBytes none (some b) t.close rest
    else trackBytes none (some b) t rest := rfl

end Bytewise

/-- High bytes are passed, and leave a high byte behind. -/
theorem trackBytes_high {quote : Option UInt8} (hquote : ∀ q, quote = some q → ¬IsHigh q)
    {bytes : List UInt8} (hne : bytes ≠ []) (h : ∀ b ∈ bytes, IsHigh b) (before : Option UInt8)
    (t : Track) (rest : List UInt8) : ∃ b, IsHigh b ∧
      trackBytes quote before t (bytes ++ rest) = trackBytes quote (some b) t rest := by
  induction bytes generalizing before with
  | nil => exact absurd rfl hne
  | cons b bytes ih =>
    obtain ⟨hb, hbytes⟩ := List.forall_mem_cons.1 h
    have hslash : b ≠ '\\'.toUInt8 := hb.ne_toUInt8 (by decide)
    have hopen : b ≠ '\x7b'.toUInt8 := hb.ne_toUInt8 (by decide)
    have hclose : b ≠ '\x7d'.toUInt8 := hb.ne_toUInt8 (by decide)
    have hstep : trackBytes quote before t (b :: (bytes ++ rest)) =
        trackBytes quote (some b) t (bytes ++ rest) := by
      cases quote with
      | none => simp [trackBytes_cons, hb.not_quote, hopen, hclose]
      | some q =>
        have hother : b ≠ q := by
          rintro rfl
          exact hquote _ rfl hb
        rw [trackBytes_within _ _ _ hslash, if_neg hother]
    rw [List.cons_append, hstep]
    by_cases hlast : bytes = []
    · exact ⟨b, hb, by rw [hlast, List.nil_append]⟩
    · exact ih hlast hbytes (some b)

/-- Inside a literal it does not matter which byte stands before. -/
theorem trackBytes_irrelevant (quote : UInt8) (before before' : Option UInt8) (t : Track)
    (bytes : List UInt8) :
    trackBytes (some quote) before t bytes = trackBytes (some quote) before' t bytes := by
  cases bytes with
  | nil => rfl
  | cons b rest => cases rest <;> rfl

section Steps

variable {quote c : Char} (before : Option UInt8) (t : Track) (rest : List Char)

theorem trackBytes_escape (hquote : isQuote quote = true) :
    trackBytes (some quote.toUInt8) before t (encoded ('\\' :: c :: rest)) =
      trackBytes (some quote.toUInt8) none t (encoded rest) := by
  obtain ⟨b, more, hbytes, hmore⟩ := exists_encodeChar c
  have hslash := encodeChar_backslash
  have hlow := not_high_of_quote hquote
  simp only [encoded_cons, hslash, hbytes, List.cons_append, List.nil_append, trackBytes_taken]
  by_cases hnone : more = []
  · rw [hnone, List.nil_append]
    exact trackBytes_irrelevant _ _ _ t _
  · obtain ⟨d, -, hpassed⟩ := trackBytes_high hlow hnone hmore (some b) t (encoded rest)
    rw [hpassed]
    exact trackBytes_irrelevant _ _ _ t _

theorem trackBytes_inside (hquote : isQuote quote = true) (hslash : c ≠ '\\') :
    trackBytes (some quote.toUInt8) before t (encoded (c :: rest)) =
      trackBytes ((if c = quote then none else some quote).map Char.toUInt8) (some quote.toUInt8) t
        (encoded rest) := by
  have hascii := ascii_of_quote hquote
  by_cases hc : c = quote
  · subst hc
    have hbyte : c.toUInt8 ≠ '\\'.toUInt8 := toUInt8_ne hascii (by decide) hslash
    rw [encoded_cons, encodeChar_ascii hascii, List.singleton_append, trackBytes_within _ _ _ hbyte,
      if_pos rfl, if_pos rfl]
    rfl
  rw [if_neg hc, Option.map_some]
  by_cases hsmall : c.toNat < 128
  · have hbyte : c.toUInt8 ≠ '\\'.toUInt8 := toUInt8_ne hsmall (by decide) hslash
    have hother : c.toUInt8 ≠ quote.toUInt8 := toUInt8_ne hsmall hascii hc
    rw [encoded_cons, encodeChar_ascii hsmall, List.singleton_append, trackBytes_within _ _ _ hbyte,
      if_neg hother]
    exact trackBytes_irrelevant _ _ _ t _
  · have hlow := not_high_of_quote hquote
    obtain ⟨hne, hhigh⟩ := encodeChar_high hsmall
    obtain ⟨d, -, hpassed⟩ := trackBytes_high hlow hne hhigh before t (encoded rest)
    rw [encoded_cons, hpassed]
    exact trackBytes_irrelevant _ _ _ t _

end Steps

/-- **Byte by byte** the same braces are found. -/
theorem trackBytes_encoded {quote before : Option Char} {previous : Option UInt8} {t : Track}
    {text : List Char} (hquote : ∀ q, quote = some q → isQuote q = true)
    (hbefore : quote = none → (previous = some '#'.toUInt8 ↔ before = some '#')) :
    trackBytes (quote.map Char.toUInt8) previous t (encoded text) =
      trackFrom quote before t text := by
  -- a byte that was passed is a `#` if its character is one
  have hbyte : ∀ c : Char, c.toNat < 128 →
      (some c.toUInt8 = some '#'.toUInt8 ↔ some c = some '#') := fun c hc => by
    rw [Option.some.injEq, Option.some.injEq]
    exact toUInt8_inj hc (by decide)
  fun_induction trackFrom quote before t text generalizing previous with
  | case1 => simp [trackBytes_nil]
  | case2 before t q =>
    rw [Option.map_some, encoded_cons, encodeChar_ascii (by decide), encoded_nil, List.append_nil,
      trackBytes_last]
  | case3 before t q d rest ih =>
    rw [Option.map_some, trackBytes_escape _ _ _ (hquote q rfl)]
    exact ih hquote nofun
  | case4 before t c rest q hslash ih =>
    rw [Option.map_some, trackBytes_inside _ _ _ (hquote q rfl) hslash]
    have hinside := isQuote_of_open (c := c) (hquote q rfl)
    refine ih hinside fun hnone => ?_
    by_cases hc : c = q
    · rw [hc]
      exact hbyte q (ascii_of_quote (hquote q rfl))
    · rw [if_neg hc] at hnone
      cases hnone
  | case5 before t c rest hopen ih =>
    have hc := ascii_of_quote hopen
    have hquoted : isQuoteByte c.toUInt8 = true := (isQuoteByte_toUInt8 hc).trans hopen
    rw [Option.map_none, encoded_cons, encodeChar_ascii hc, List.singleton_append,
      trackBytes_cons]
    simp only [if_pos hquoted]
    exact ih (by rintro q ⟨⟩; exact hopen) nofun
  | case6 before t rest hopen ih =>
    have hnone : ¬isQuoteByte '\x7b'.toUInt8 = true := by decide
    rw [Option.map_none, encoded_cons, encodeChar_ascii (by decide), List.singleton_append,
      trackBytes_cons]
    simp only [if_neg hnone, if_true, hbefore rfl]
    exact ih nofun fun _ => hbyte _ (by decide)
  | case7 before t rest hopen hclose ih =>
    have hnone : ¬isQuoteByte '\x7d'.toUInt8 = true := by decide
    have hother : '\x7d'.toUInt8 ≠ '\x7b'.toUInt8 := by decide
    rw [Option.map_none, encoded_cons, encodeChar_ascii (by decide), List.singleton_append,
      trackBytes_cons]
    simp only [if_neg hnone, if_neg hother, if_true]
    exact ih nofun fun _ => hbyte _ (by decide)
  | case8 before t c rest hquoted hopen hclose ih =>
    by_cases hc : c.toNat < 128
    · have hnone : ¬isQuoteByte c.toUInt8 = true := by rwa [isQuoteByte_toUInt8 hc]
      have hopen' : c.toUInt8 ≠ '\x7b'.toUInt8 := toUInt8_ne hc (by decide) hopen
      have hclose' : c.toUInt8 ≠ '\x7d'.toUInt8 := toUInt8_ne hc (by decide) hclose
      rw [Option.map_none, encoded_cons, encodeChar_ascii hc, List.singleton_append,
        trackBytes_cons]
      simp only [if_neg hnone, if_neg hopen', if_neg hclose']
      exact ih nofun fun _ => hbyte c hc
    · obtain ⟨hne, hhigh⟩ := encodeChar_high hc
      have hlow : ∀ q, none = some q → ¬IsHigh q := by rintro q ⟨⟩
      obtain ⟨b, hb, hpassed⟩ := trackBytes_high hlow hne hhigh previous t (encoded rest)
      rw [Option.map_none, encoded_cons, hpassed]
      refine ih nofun fun _ => ⟨fun h => ?_, fun h => ?_⟩
      · exact absurd (Option.some.inj h) (hb.ne_toUInt8 (by decide))
      · rw [Option.some.inj h] at hc
        exact absurd (by decide) hc

/-! ### Prepared scripts -/

/-- Lines with their comments gone and their statements terminated, all read byte by byte; none if
one of them is cut inside of a character. -/
def prepareLinesBytes? : List Brace → List (List Char) → Option (List (List Char))
  | _, [] => some []
  | stack, line :: rest =>
    match codeBytes none [] (encoded line) with
    | none => none
    | some cut =>
      let code := Text.trimEnd cut
      let t := trackBytes none none ⟨stack, none⟩ (encoded code)
      (prepareLinesBytes? t.stack rest).map (terminated code t.closed :: ·)

/-- A script that is prepared byte by byte. -/
def prepareBytes? (text : String) : Option String :=
  (prepareLinesBytes? [] (Text.lines text.toList)).map fun lines =>
    String.ofList (lines.flatMap (· ++ ['\n']))

theorem prepareLinesBytes?_eq (stack : List Brace) (lines : List (List Char)) :
    prepareLinesBytes? stack lines = some (prepareLines stack lines) := by
  induction lines generalizing stack with
  | nil => rfl
  | cons line rest ih =>
    have htrack : trackBytes none none ⟨stack, none⟩ (encoded (code line)) =
        track stack (code line) :=
      @trackBytes_encoded none none none _ _ nofun fun _ => by simp
    rw [prepareLinesBytes?, codeBytes_encoded]
    simp only [← code.eq_1, htrack, ih, Option.map_some, prepareLines]

/-- **No script** is cut inside of a character when it is read byte by byte, and it is prepared as
it is when it is read as characters. -/
theorem prepareBytes?_eq (text : String) : prepareBytes? text = some (prepare text) := by
  rw [prepareBytes?, prepareLinesBytes?_eq]
  rfl

end VectorScene.Script
