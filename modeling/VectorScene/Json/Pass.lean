import VectorScene.Json.Container

/-!
# Going past a value

The value of an unknown member is passed over and not decoded. It may be nested to any depth, so
the containers around the cursor are kept on a stack.

## Main definitions

* `Expecting`: what may stand at the cursor
* `passValue`: goes past a value
-/

namespace VectorScene.Json

/-- What may stand at the cursor while a value is passed over. -/
inductive Expecting where
  /-- A value. -/
  | value
  /-- The first item of the innermost container, or its end. -/
  | firstItem
  /-- A comma and another item, or the end of the innermost container. -/
  | anotherItem
deriving DecidableEq, Repr

/-- Goes past the letters, the number or the string that starts at the cursor. -/
def passScalar (char : Char) (c : Cursor) : Except Failure (Unit × Cursor) :=
  if char = 'n' then word c.next ['u', 'l', 'l']
  else if char = 't' then word c.next ['r', 'u', 'e']
  else if char = 'f' then word c.next ['a', 'l', 's', 'e']
  else if char = '-' ∨ Decimal.isDigit char then passNumber c
  else if char = '"' then passText c.next
  else .error (.ahead .valueExpected c)

/-- Goes past the name of a member and its colon; an item of an array has neither. -/
def passName (kind : Container) (c : Cursor) : Except Failure (Unit × Cursor) :=
  match kind with
  | .array => .ok ((), c)
  | .object => do
    let c := c.trim
    if c.rest.isEmpty then throw (.ahead .endInObject c)
    if c.rest.head? ≠ some '"' then throw (.ahead .keyExpected c)
    let (_, c) ← passText c.next
    colon c

/-- Goes past what is left of the value, where the stack holds the containers around the cursor,
the innermost first. Two steps of the budget suffice for each character. -/
def passFrom : Nat → Expecting → List Container → Cursor → Except Failure (Unit × Cursor)
  | 0, _, _, c => .error (.ahead .endInValue c)
  | budget + 1, .value, stack, c =>
    let c := c.trim
    match c.rest with
    | [] => .error (.ahead .endInValue c)
    | char :: _ =>
      if char = '[' then passFrom budget .firstItem (.array :: stack) c.next
      else if char = '\x7b' then passFrom budget .firstItem (.object :: stack) c.next
      else do
        let (_, c) ← passScalar char c
        passFrom budget .anotherItem stack c
  | _ + 1, .firstItem, [], c => .ok ((), c)
  | _ + 1, .anotherItem, [], c => .ok ((), c)
  | budget + 1, expecting, kind :: outer, c =>
    let c := c.trim
    match c.rest with
    | [] => .error (.ahead kind.atEnd c)
    | char :: _ =>
      if char = kind.closer then passFrom budget .anotherItem outer c.next
      else if expecting = .firstItem then do
        let (_, c) ← passName kind c
        passFrom budget .value (kind :: outer) c
      else if char = ',' then do
        let (_, c) ← passName kind c.next
        passFrom budget .value (kind :: outer) c
      else .error (.ahead kind.commaExpected c)

/-- Goes past a value. -/
def passValue (c : Cursor) : Except Failure (Unit × Cursor) :=
  passFrom (2 * c.rest.length + 2) .value [] c

end VectorScene.Json
