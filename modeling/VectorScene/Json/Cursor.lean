import VectorScene.Json.Error

/-!
# Reading with a cursor

A cursor is the text still to be read and its place in the whole. A reader takes a cursor and gives
a value and the cursor behind it, or a failure.

## Main definitions

* `Cursor`: the rest of the text and its place
* `Failure`: a cause, its place, and where reading stopped
* `Reader`: functions from a cursor to a value and the cursor behind it
* `Reader.run`: a whole text read
-/

namespace VectorScene.Json

/-- The rest of a text and its place in the whole. -/
structure Cursor where
  position : Position
  rest : List Char

namespace Cursor

/-- The cursor before a text. -/
def start (text : List Char) : Cursor := ⟨⟨1, 0⟩, text⟩

/-- The cursor behind the next character. -/
def next (c : Cursor) : Cursor :=
  match c.rest with
  | [] => c
  | char :: rest => ⟨c.position.after char, rest⟩

/-- The place one byte ahead, where faults of the next character are reported. -/
def ahead (c : Cursor) : Position :=
  match c.rest with
  | [] => c.position
  | char :: _ => c.position.into char

/-- The cursor behind `n` characters. -/
def skip (c : Cursor) : Nat → Cursor
  | 0 => c
  | n + 1 => c.next.skip n

end Cursor

/-- The blanks of JSON text. -/
def isBlank (c : Char) : Bool := c == ' ' || c == '\n' || c == '\t' || c == '\r'

/-- The cursor before the first character that is no blank. -/
def blanks (position : Position) : List Char → Cursor
  | [] => ⟨position, []⟩
  | c :: rest => if isBlank c then blanks (position.after c) rest else ⟨position, c :: rest⟩

namespace Cursor

/-- The cursor behind any blanks. -/
def trim (c : Cursor) : Cursor := blanks c.position c.rest

end Cursor

/-- Why reading stopped. A failure without a place gets the place where the array or object around
it ends. -/
structure Failure where
  cause : Cause
  position : Option Position
  left : Cursor

namespace Failure

/-- A failure at the cursor. -/
def here (cause : Cause) (c : Cursor) : Failure := ⟨cause, some c.position, c⟩

/-- A failure of the character at the cursor. -/
def ahead (cause : Cause) (c : Cursor) : Failure := ⟨cause, some c.ahead, c⟩

/-- A failure whose place is not yet known. -/
def unplaced (cause : Cause) (c : Cursor) : Failure := ⟨cause, none, c⟩

/-- The failure with a place, which is the given one if it had none. -/
def placed (f : Failure) (p : Position) : Failure := { f with position := f.position.or (some p) }

/-- The failure as an error of the whole text. -/
def toError (f : Failure) : Error := ⟨f.cause, f.position⟩

end Failure

/-- Functions from a cursor to a value and the cursor behind it. -/
abbrev Reader (α : Type) := Cursor → Except Failure (α × Cursor)

/-- Reads a whole text: a value and nothing but blanks behind it. -/
def Reader.run {α : Type} (reader : Reader α) (text : String) : Except Error α :=
  match reader (.start text.toList) with
  | .error f => .error f.toError
  | .ok (a, c) =>
    let c := c.trim
    match c.rest with
    | [] => .ok a
    | _ :: _ => .error (Failure.ahead .trailingText c).toError

/-- Reads the remaining letters of a word whose first letter has been seen. -/
def word (c : Cursor) : List Char → Except Failure (Unit × Cursor)
  | [] => .ok ((), c)
  | letter :: letters =>
    match c.rest with
    | [] => .error (.here .endInValue c)
    | char :: _ => if char = letter then word c.next letters else .error (.ahead .wordExpected c)

end VectorScene.Json
