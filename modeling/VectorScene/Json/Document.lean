import VectorScene.Json.Container

/-!
# Documents

A document is a value of JSON text: the two constants, numbers, strings, arrays and objects.

## Main definitions

* `Document`: values of JSON text
* `Document.found`: how a message names a document
* `document`: reads a document that is nested to a limited depth
* `Document.ofText`: the document that a whole text is
* `encode`, `arrayChars`, `objectChars`: the pieces of text without blanks
-/

namespace VectorScene.Json

/-- A value of JSON text. Integers are those of 64 bits; members stand in the order of the text. -/
inductive Document where
  | null
  | bool (value : Bool)
  | integer (value : Int)
  | float (value : Float)
  | string (value : String)
  | array (items : List Document)
  | object (members : List (String × Document))

namespace Document

/-- How a message names a document. -/
def found : Document → Found
  | null => .nothing
  | bool value => .boolean value
  | integer value => .integer value
  | float value => .float value
  | string value => .string value
  | array _ => .sequence
  | object _ => .map

end Document

/-! ### Reading -/

/-- How many containers may be nested in one text. -/
def nestingLimit : Nat := 127

/-- The failure of a container that is nested too deep. -/
def tooDeep {α : Type} (c : Cursor) : Except Failure (α × Cursor) :=
  .error (.ahead .nestedTooDeep c)

/-- Reads a document, whose arrays and objects are read by the given readers. -/
def documentWith (arrays objects : Reader Document) (c : Cursor) :
    Except Failure (Document × Cursor) :=
  let c := c.trim
  match c.rest with
  | [] => .error (.ahead .endInValue c)
  | char :: _ =>
    if char = 'n' then do
      let (_, c) ← word c.next ['u', 'l', 'l']
      return (.null, c)
    else if char = 't' then do
      let (_, c) ← word c.next ['r', 'u', 'e']
      return (.bool true, c)
    else if char = 'f' then do
      let (_, c) ← word c.next ['a', 'l', 's', 'e']
      return (.bool false, c)
    else if char = '-' ∨ Decimal.isDigit char then do
      let (n, c) ← number c
      match n with
      | .integer i => return (.integer i, c)
      | .float x => return (.float x, c)
    else if char = '"' then do
      let (s, c) ← text c.next
      return (.string s, c)
    else if char = '[' then arrays c
    else if char = '\x7b' then objects c
    else .error (.ahead .valueExpected c)

/-- Reads a member of an object, whose value is read by the given reader. -/
def member {α : Type} (value : Reader α) (gathered : List (String × α)) (name : String)
    (c : Cursor) : Except Failure (List (String × α) × Cursor) := do
  let (_, c) ← colon c
  let (a, c) ← value c
  return (gathered ++ [(name, a)], c)

/-- Reads a document that is nested to the given depth at most. -/
def document : Nat → Cursor → Except Failure (Document × Cursor)
  | 0 => documentWith tooDeep tooDeep
  | depth + 1 =>
    documentWith
      (fun c => do
        let (all, c) ← array (document depth) c
        return (.array all, c))
      (object (member (document depth)) [] (fun all => .ok (.object all)))

/-- The document that a whole text is. -/
def Document.ofText (text : String) : Except Error Document :=
  Reader.run (document nestingLimit) text

/-! ### Writing -/

/-- The text of a float; what is not finite is written as null. -/
def floatChars (x : Float) : List Char :=
  if Decimal.isFinite x then (Decimal.Layout.document.render x).toList else ['n', 'u', 'l', 'l']

/-- The decimal digits of an integer, with its sign if it is negative. -/
def integerChars (i : Int) : List Char :=
  if i < 0 then '-' :: Nat.toDigits 10 i.natAbs else Nat.toDigits 10 i.natAbs

/-- The constants `true` and `false`. -/
def boolChars (b : Bool) : List Char :=
  if b then ['t', 'r', 'u', 'e'] else ['f', 'a', 'l', 's', 'e']

/-- Texts with commas between them. -/
def separated : List (List Char) → List Char
  | [] => []
  | [one] => one
  | one :: others => one ++ ',' :: separated others

/-- An array of items that are already text. -/
def arrayChars (items : List (List Char)) : List Char := '[' :: separated items ++ [']']

/-- An object of names and values that are already text. -/
def objectChars (members : List (String × List Char)) : List Char :=
  '\x7b' :: separated (members.map fun m => encode m.1 ++ ':' :: m.2) ++ ['\x7d']

end VectorScene.Json
