import VectorScene.Json.Text
import VectorScene.Json.Number

/-!
# Arrays, objects and single values

The readers for the pieces of JSON text. A reader for an array takes the reader for its items, a
reader for an object takes a step that reads a member into what has been gathered so far.

A failure inside an array or object whose place is not known gets the place behind its end, if the
end follows directly, and where reading stopped otherwise.

## Main definitions

* `nextItem`: goes to the next item of an array or object, or to its end
* `array`, `object`: readers for arrays and objects
* `string`, `boolean`, `integerBelow`: readers for one kind of value
* `mismatch`: the failure for a value of another kind
-/

namespace VectorScene.Json

/-! ### Values of one kind -/

/-- The failure when a value of another kind stands at the cursor. The value is read first if it is
a scalar, and a fault in it comes before its wrong type. -/
def mismatch (wanted : Wanted) (c : Cursor) : Failure :=
  let wrong (found : Found) (behind : Cursor) : Failure := .here (.wrongType found wanted) behind
  let afterWord (letters : List Char) (found : Found) : Failure :=
    match word c.next letters with
    | .ok (_, behind) => wrong found behind
    | .error f => f
  match c.rest with
  | [] => .ahead .endInValue c
  | char :: _ =>
    if char = 'n' then afterWord ['u', 'l', 'l'] .nothing
    else if char = 't' then afterWord ['r', 'u', 'e'] (.boolean true)
    else if char = 'f' then afterWord ['a', 'l', 's', 'e'] (.boolean false)
    else if char = '-' ∨ Decimal.isDigit char then
      match number c with
      | .ok (.integer i, behind) => wrong (.integer i) behind
      | .ok (.float x, behind) => wrong (.float x) behind
      | .error f => f
    else if char = '"' then
      match text c.next with
      | .ok (s, behind) => wrong (.string s) behind
      | .error f => f
    else if char = '[' then wrong .sequence c
    else if char = '\x7b' then wrong .map c
    else .ahead .valueExpected c

/-- Reads a string. -/
def string (c : Cursor) : Except Failure (String × Cursor) :=
  let c := c.trim
  if c.rest.head? = some '"' then text c.next else .error (mismatch .text c)

/-- Reads `true` or `false`. -/
def boolean (c : Cursor) : Except Failure (Bool × Cursor) :=
  let c := c.trim
  if c.rest.head? = some 't' then do
    let (_, c) ← word c.next ['r', 'u', 'e']
    return (true, c)
  else if c.rest.head? = some 'f' then do
    let (_, c) ← word c.next ['a', 'l', 's', 'e']
    return (false, c)
  else .error (mismatch .boolean c)

/-- Reads an integer from zero to below the bound. -/
def integerBelow (bound : Nat) (c : Cursor) : Except Failure (Nat × Cursor) :=
  let c := c.trim
  match c.rest with
  | [] => .error (.ahead .endInValue c)
  | char :: _ =>
    if char = '-' ∨ Decimal.isDigit char then
      match number c with
      | .ok (.integer i, behind) =>
        if 0 ≤ i ∧ i < bound then .ok (i.toNat, behind)
        else .error (.here (.wrongValue (.integer i) .word) behind)
      | .ok (.float x, behind) => .error (.here (.wrongType (.float x) .word) behind)
      | .error f => .error f
    else .error (mismatch .word c)

/-! ### Arrays and objects -/

/-- The two kinds of containers. -/
inductive Container where
  | array
  | object
deriving DecidableEq, Repr

namespace Container

/-- The character that closes a container. -/
def closer : Container → Char
  | array => ']'
  | object => '\x7d'

/-- What is wrong if the text ends inside. -/
def atEnd : Container → Cause
  | array => .endInArray
  | object => .endInObject

/-- What is wrong if neither a comma nor the end follows an item. -/
def commaExpected : Container → Cause
  | array => .commaOrBracketExpected
  | object => .commaOrBraceExpected

/-- Goes past the end of a container, if it is next. A failure comes with the place reached. -/
def close (kind : Container) (c : Cursor) : Option Failure × Cursor :=
  let c := c.trim
  match c.rest with
  | [] => (some (.ahead kind.atEnd c), c)
  | char :: _ =>
    if char = kind.closer then (none, c.next)
    else if char = ',' then
      match kind with
      | object => (some (.ahead .trailingComma c), c)
      | array =>
        let c := c.next.trim
        let cause := if c.rest.head? = some ']' then Cause.trailingComma else .trailingText
        (some (.ahead cause c), c)
    else (some (.ahead .trailingText c), c)

/-- What was read inside a container, behind its end. -/
def finish {α : Type} (kind : Container) (body : Except Failure (α × Cursor)) :
    Except Failure (α × Cursor) :=
  match body with
  | .ok (a, c) =>
    match kind.close c with
    | (none, c) => .ok (a, c)
    | (some f, _) => .error f
  | .error f => .error (f.placed (kind.close f.left).2.position)

end Container

/-- Goes to the next item, or finds the end of the container ahead. -/
def nextItem (kind : Container) (first : Bool) (c : Cursor) : Except Failure (Bool × Cursor) :=
  let c := c.trim
  match c.rest with
  | [] => .error (.ahead kind.atEnd c)
  | char :: _ =>
    if char = kind.closer then .ok (false, c)
    else if first then .ok (true, c)
    else if char = ',' then
      let c := c.next.trim
      match c.rest with
      | [] => .error (.ahead .endInValue c)
      | char :: _ =>
        if char = kind.closer then .error (.ahead .trailingComma c) else .ok (true, c)
    else .error (.ahead kind.commaExpected c)

/-- Reads items up to the end of the array, at most `budget` of them. -/
def items {α : Type} (item : Reader α) : Nat → Bool → Cursor → Except Failure (List α × Cursor)
  | 0, _, c => .error (.ahead .endInArray c)
  | budget + 1, first, c => do
    let (more, c) ← nextItem .array first c
    if more then
      let (a, c) ← item c
      let (rest, c) ← items item budget false c
      return (a :: rest, c)
    else return ([], c)

/-- Reads an array whose opening bracket is next. -/
def array {α : Type} (item : Reader α) (c : Cursor) : Except Failure (List α × Cursor) :=
  Container.array.finish (items item (c.rest.length + 1) true c.next)

/-- Reads the name of a member. -/
def key (c : Cursor) : Except Failure (String × Cursor) :=
  if c.rest.head? = some '"' then text c.next else .error (.ahead .keyExpected c)

/-- Goes past the colon between the name of a member and its value. -/
def colon (c : Cursor) : Except Failure (Unit × Cursor) :=
  let c := c.trim
  match c.rest with
  | [] => .error (.ahead .endInObject c)
  | char :: _ => if char = ':' then .ok ((), c.next) else .error (.ahead .colonExpected c)

/-- Reads members up to the end of the object, at most `budget` of them. The step is given what has
been gathered and the name of the member, and reads from before the colon. -/
def members {σ : Type} (step : σ → String → Reader σ) :
    Nat → Bool → σ → Cursor → Except Failure (σ × Cursor)
  | 0, _, _, c => .error (.ahead .endInObject c)
  | budget + 1, first, gathered, c => do
    let (more, c) ← nextItem .object first c
    if more then
      let (name, c) ← key c
      let (gathered, c) ← step gathered name c
      members step budget false gathered c
    else return (gathered, c)

/-- Reads an object whose opening brace is next. -/
def object {σ τ : Type} (step : σ → String → Reader σ) (start : σ)
    (result : σ → Except Cause τ) (c : Cursor) : Except Failure (τ × Cursor) :=
  Container.object.finish do
    let (gathered, c) ← members step (c.rest.length + 1) true start c.next
    match result gathered with
    | .ok t => return (t, c)
    | .error cause => throw (.unplaced cause c)

end VectorScene.Json
