import VectorScene.Geometry.Mat4
import VectorScene.Json.Document

/-!
# Values

Commands take and give loosely typed values. A value has two texts: the one that is shown, and the
literal that stands for it in a script.

## Main definitions

* `Value`: arguments and results of commands
* `Value.literal`, `Value.display`: the two texts
* `Value.toInt?`, `Value.toFloat?`, `Value.toPoint?`, `Value.toTransform?`: what a value stands for
* `Value.jsonChars`, `Value.read`: a value as JSON text
-/

namespace VectorScene.Command

open VectorScene.Geometry

/-- An argument or a result of a command. -/
inductive Value where
  | absent
  | bool (value : Bool)
  | int (value : Int64)
  | float (value : Float)
  | string (value : String)
  | list (items : List Value)
deriving Inhabited

namespace Value

/-! ### What a value stands for -/

/-- Whether a value counts as not given. -/
def isAbsent : Value → Bool
  | absent => true
  | _ => false

/-- The text of a string. -/
def toString? : Value → Option String
  | string s => some s
  | _ => none

/-- The truth value of a switch. -/
def toBool? : Value → Option Bool
  | bool b => some b
  | _ => none

/-- The integer that a number stands for. A float stands for one if it is whole. -/
def toInt? : Value → Option Int64
  | int i => some i
  | float x => (Decimal.toInt? x).map Decimal.nearestInt64
  | _ => none

/-- The float that a number stands for. -/
def toFloat? : Value → Option Float
  | float x => some x
  | int i => some (Decimal.ofInt i.toInt)
  | _ => none

/-- The items of a list. -/
def toList? : Value → Option (List Value)
  | list items => some items
  | _ => none

/-- The point of three numbers. -/
def toPoint? : Value → Option Point
  | list [x, y, z] => do return ⟨← x.toFloat?, ← y.toFloat?, ← z.toFloat?⟩
  | _ => none

/-- The row of four numbers. -/
def toRow? : List Value → Option (Vec4 Float)
  | [x, y, z, w] => do return ⟨← x.toFloat?, ← y.toFloat?, ← z.toFloat?, ← w.toFloat?⟩
  | _ => none

/-- The transform of four rows of four numbers, or of sixteen numbers row by row. -/
def toTransform? : Value → Option Transform
  | list [a, b, c, d] => do
    return ⟨← toRow? (← a.toList?), ← toRow? (← b.toList?), ← toRow? (← c.toList?),
      ← toRow? (← d.toList?)⟩
  | list [a0, a1, a2, a3, b0, b1, b2, b3, c0, c1, c2, c3, d0, d1, d2, d3] => do
    return ⟨← toRow? [a0, a1, a2, a3], ← toRow? [b0, b1, b2, b3], ← toRow? [c0, c1, c2, c3],
      ← toRow? [d0, d1, d2, d3]⟩
  | _ => none

/-- A point as a value. -/
def ofPoint (p : Point) : Value := list (p.toList.map float)

/-- A list of texts as a value. -/
def ofStrings (texts : List String) : Value := list (texts.map string)

/-! ### Texts -/

/-- A character inside a literal. -/
def literalEscape (c : Char) : List Char :=
  match c with
  | '\\' => ['\\', '\\']
  | '"' => ['\\', '"']
  | '\n' => ['\\', 'n']
  | '\r' => ['\\', 'r']
  | '\t' => ['\\', 't']
  | _ => [c]

/-- The literal of a string. -/
def stringLiteral (s : String) : List Char := '"' :: s.toList.flatMap literalEscape ++ ['"']

/-- The literal of a float. A whole number keeps a zero place, which tells it from an integer. -/
def floatLiteral (x : Float) : List Char :=
  if (Decimal.toInt? x).isSome then (Decimal.fixed 1 x).toList
  else (Decimal.Layout.plain.render x).toList

/-- Texts with a comma and a space between them. -/
def spaced : List (List Char) → List Char
  | [] => []
  | [one] => one
  | one :: others => one ++ ',' :: ' ' :: spaced others

mutual

/-- The characters of the literal of a value. -/
def literalChars : Value → List Char
  | absent => ['(', ')']
  | bool b => Json.boolChars b
  | int i => Json.integerChars i.toInt
  | float x => floatLiteral x
  | string s => stringLiteral s
  | list items => '[' :: spaced (literals items) ++ [']']

/-- The literals of values. -/
def literals : List Value → List (List Char)
  | [] => []
  | v :: rest => literalChars v :: literals rest

end

/-- The text that stands for a value in a script. -/
def literal (v : Value) : String := String.ofList v.literalChars

/-- The text that is shown for a value. -/
def display : Value → String
  | absent => ""
  | float x => Decimal.Layout.plain.render x
  | string s => s
  | v => v.literal

/-! ### JSON text -/

mutual

/-- The JSON text of a value. -/
def jsonChars : Value → List Char
  | absent => ['n', 'u', 'l', 'l']
  | bool b => Json.boolChars b
  | int i => Json.integerChars i.toInt
  | float x => Json.floatChars x
  | string s => Json.encode s
  | list items => Json.arrayChars (jsonTexts items)

/-- The JSON texts of values. -/
def jsonTexts : List Value → List (List Char)
  | [] => []
  | v :: rest => jsonChars v :: jsonTexts rest

end

/-- The JSON text of a value. -/
def json (v : Value) : String := String.ofList v.jsonChars

mutual

/-- A value as a document. What is not finite becomes null. -/
def toDocument : Value → Json.Document
  | absent => .null
  | bool b => .bool b
  | int i => .integer i.toInt
  | float x => if Decimal.isFinite x then .float x else .null
  | string s => .string s
  | list items => .array (toDocuments items)

/-- Values as documents. -/
def toDocuments : List Value → List Json.Document
  | [] => []
  | v :: rest => toDocument v :: toDocuments rest

end

/-- The value of an integer, which is a float if it does not fit into 64 bits. -/
def ofInteger (i : Int) : Value :=
  match Decimal.toInt64? i with
  | some n => int n
  | none => float (Decimal.ofInt i)

mutual

/-- The value that a document stands for. Objects stand for none. -/
def ofDocument? : Json.Document → Option Value
  | .null => some absent
  | .bool b => some (bool b)
  | .integer i => some (ofInteger i)
  | .float x => some (float x)
  | .string s => some (string s)
  | .array items => (ofDocuments? items).map list
  | .object _ => none

/-- The values that documents stand for. -/
def ofDocuments? : List Json.Document → Option (List Value)
  | [] => some []
  | d :: rest => do return (← ofDocument? d) :: (← ofDocuments? rest)

end

/-- Reads a value that is nested to the given depth at most. -/
def read (depth : Nat) (c : Json.Cursor) : Except Json.Failure (Value × Json.Cursor) := do
  let (d, c) ← Json.document depth c
  match ofDocument? d with
  | some v => return (v, c)
  | none => throw (.unplaced .noValue c)

/-- The value that a whole JSON text is. -/
def ofJson (text : String) : Except Json.Error Value :=
  Json.Reader.run (read Json.nestingLimit) text

/-! ### Size -/

mutual

/-- The number of bytes of the longest string in a value. -/
def longest : Value → Nat
  | string s => s.utf8ByteSize
  | list items => longestOf items
  | _ => 0

/-- The number of bytes of the longest string in some values. -/
def longestOf : List Value → Nat
  | [] => 0
  | v :: rest => max (longest v) (longestOf rest)

end

end Value

end VectorScene.Command
