import VectorScene.Json.Cursor
import VectorScene.Decimal.Reading

/-!
# Strings of JSON text

A string stands between quotes. A quote, a backslash and the control characters are written as
escapes, and every character may be.

## Main definitions

* `escapeChars`, `encode`: a string as JSON text
* `escape`: reads one escape
* `text`: reads a string behind its opening quote
* `passText`: goes past a string without decoding it
-/

namespace VectorScene.Json

/-! ### Writing -/

/-- A character as it stands between the quotes. -/
def escapeChars (c : Char) : List Char :=
  match c with
  | '"' => ['\\', '"']
  | '\\' => ['\\', '\\']
  | '\x08' => ['\\', 'b']
  | '\x0c' => ['\\', 'f']
  | '\n' => ['\\', 'n']
  | '\r' => ['\\', 'r']
  | '\t' => ['\\', 't']
  | _ =>
    if c.toNat < 0x20 then '\\' :: 'u' :: Text.paddedHex 4 c.toNat else [c]

/-- A string as JSON text. -/
def encode (s : String) : List Char := '"' :: s.toList.flatMap escapeChars ++ ['"']

/-! ### Reading -/

/-- The number of bytes of a text. -/
def byteLength (chars : List Char) : Nat := chars.foldl (fun n c => n + c.utf8Size) 0

/-- The place `n` bytes ahead. -/
def placeAhead (p : Position) : List Char → Nat → Position
  | _, 0 => p
  | [], _ => p
  | c :: rest, n + 1 =>
    if c.utf8Size ≤ n + 1 then placeAhead (p.after c) rest (n + 1 - c.utf8Size)
    else ⟨p.line, p.column + (n + 1)⟩

/-- Reads the four hexadecimal digits of an escape. -/
def hexEscape (c : Cursor) : Except Failure (Nat × Cursor) :=
  if byteLength (c.rest.take 4) < 4 then
    .error (.here .endInString (c.skip (c.rest.take 4).length))
  else
    match Text.numberIn? 16 (c.rest.take 4) with
    | some n => .ok (n, c.skip 4)
    | none =>
      .error ⟨.badEscape, some (placeAhead c.position c.rest 4), c⟩

/-- Reads a character that has to stand inside an escape of two parts. -/
def escapePart (char : Char) (c : Cursor) : Except Failure (Unit × Cursor) :=
  match c.rest with
  | [] => .error (.here .endInString c)
  | d :: _ => if d = char then .ok ((), c.next) else .error (.ahead .unfinishedEscape c)

/-- Reads the digits of an escape by number. A character beyond the sixteen-bit numbers is written
as a leading and a trailing surrogate, and neither of them may stand alone. -/
def numberEscape (c : Cursor) : Except Failure (Char × Cursor) := do
  let (n, c) ← hexEscape c
  if 0xdc00 ≤ n ∧ n ≤ 0xdfff then throw (.here .loneSurrogate c)
  if n < 0xd800 ∨ 0xdbff < n then return (Char.ofNat n, c)
  let (_, c) ← escapePart '\\' c
  let (_, c) ← escapePart 'u' c
  let (m, c) ← hexEscape c
  if m < 0xdc00 ∨ 0xdfff < m then throw (.here .loneSurrogate c)
  return (Char.ofNat ((n - 0xd800) * 0x400 + (m - 0xdc00) + 0x10000), c)

/-- The character that an escape of one letter stands for. -/
def letterEscape? (c : Char) : Option Char :=
  match c with
  | '"' => some '"'
  | '\\' => some '\\'
  | '/' => some '/'
  | 'b' => some '\x08'
  | 'f' => some '\x0c'
  | 'n' => some '\n'
  | 'r' => some '\r'
  | 't' => some '\t'
  | _ => none

/-- Reads an escape behind its backslash. -/
def escape (c : Cursor) : Except Failure (Char × Cursor) :=
  match c.rest with
  | [] => .error (.here .endInString c)
  | char :: _ =>
    if char = 'u' then numberEscape c.next
    else
      match letterEscape? char with
      | some decoded => .ok (decoded, c.next)
      | none => .error (.ahead .badEscape c)

/-- Reads the characters of a string up to its closing quote, at most `budget` of them. -/
def textChars : Nat → Cursor → Except Failure (List Char × Cursor)
  | 0, c => .error (.here .endInString c)
  | budget + 1, c =>
    match c.rest with
    | [] => .error (.here .endInString c)
    | char :: _ =>
      if char = '"' then .ok ([], c.next)
      else if char = '\\' then do
        let (decoded, c) ← escape c.next
        let (chars, c) ← textChars budget c
        return (decoded :: chars, c)
      else if char.toNat < 0x20 then .error (.ahead .controlCharacter c)
      else do
        let (chars, c) ← textChars budget c.next
        return (char :: chars, c)

/-- Reads a string behind its opening quote. -/
def text (c : Cursor) : Except Failure (String × Cursor) := do
  let (chars, c) ← textChars (c.rest.length + 1) c
  return (String.ofList chars, c)

/-- Goes past an escape behind its backslash. -/
def passEscape (c : Cursor) : Except Failure (Unit × Cursor) :=
  match c.rest with
  | [] => .error (.here .endInString c)
  | char :: _ =>
    if char = 'u' then do
      let (_, c) ← hexEscape c.next
      return ((), c)
    else if (letterEscape? char).isSome then .ok ((), c.next)
    else .error (.ahead .badEscape c)

/-- Goes past the characters of a string and its closing quote. Surrogates are not looked at. -/
def passChars : Nat → Cursor → Except Failure (Unit × Cursor)
  | 0, c => .error (.here .endInString c)
  | budget + 1, c =>
    match c.rest with
    | [] => .error (.here .endInString c)
    | char :: _ =>
      if char = '"' then .ok ((), c.next)
      else if char = '\\' then do
        let (_, c) ← passEscape c.next
        passChars budget c
      else if char.toNat < 0x20 then .error (.here .controlCharacter c)
      else passChars budget c.next

/-- Goes past a string behind its opening quote. -/
def passText (c : Cursor) : Except Failure (Unit × Cursor) := passChars (c.rest.length + 1) c

end VectorScene.Json
