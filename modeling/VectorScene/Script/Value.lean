import VectorScene.Decimal.Layout
import VectorScene.Decimal.Reading
import VectorScene.Text.Quoted

/-!
# Values of scripts

Scripts compute with more kinds of values than commands take: they have characters, maps and ranges
as well. A value has two texts: the one that is printed, and the one that stands inside the text of
an array or a map.

## Main definitions

* `Value`: the values
* `Value.kind`: the name of a kind of value
* `Value.display`, `Value.inner`: the two texts
* `Key`, `Value.at?`, `Value.put?`: the parts of a value, read and changed
* `Value.grow?`: an array with one more item
-/

namespace VectorScene.Script

/-- The values of scripts. -/
inductive Value where
  | unit
  | bool (value : Bool)
  | integer (value : Int64)
  | float (value : Float)
  | char (value : Char)
  | string (value : String)
  | array (items : List Value)
  /-- Values under distinct names, sorted. -/
  | map (members : List (String × Value))
  /-- The integers from the first on, up to the second or through it. -/
  | range (first last : Int64) (closed : Bool)
deriving Inhabited

namespace Value

/-- The name of a kind of value. -/
def kind : Value → String
  | unit => "()"
  | bool _ => "bool"
  | integer _ => "int"
  | float _ => "float"
  | char _ => "char"
  | string _ => "string"
  | array _ => "array"
  | map _ => "map"
  | range _ _ false => "core::ops::range::Range<i64>"
  | range _ _ true => "core::ops::range::RangeInclusive<i64>"

/-! ### Texts -/

/-- The magnitudes of floats that are printed without an exponent. -/
def isOrdinary (x : Float) : Bool :=
  x == 0 || !(Decimal.powerOfTen 13 < x.abs || x.abs < Decimal.nearest 1 (-7))

/-- The text of a float: without an exponent between `1e-7` and `1e13`, and then with a place. -/
def floatText (x : Float) : String :=
  if x == 0 then "0.0"
  else if isOrdinary x then { Decimal.Layout.plain with wholePlace := true }.render x
  else Decimal.Layout.scientific.render x

/-- The text of a float inside an array: without an exponent from `1e-4` up to `1e16`, and then with
a place. -/
def innerFloat : Decimal.Layout := ⟨fun e => -4 ≤ e && e < 16, true, false⟩

/-- The text of a character inside an array. -/
def quotedChar (c : Char) : String :=
  match c with
  | '\'' => "'\\''"
  | '"' => "'\"'"
  | _ => String.ofList ('\'' :: Text.escapedChar c ++ ['\''])

/-- The bounds of a range with its operator. -/
def rangeText (first last : Int64) (closed : Bool) : String :=
  toString first.toInt ++ (if closed then "..=" else "..") ++ toString last.toInt

mutual

/-- The text that stands for a value inside the text of an array or a map. -/
def inner : Value → String
  | unit => "()"
  | bool b => if b then "true" else "false"
  | integer i => toString i.toInt
  | float x => innerFloat.render x
  | char c => quotedChar c
  | string s => Text.quoted s
  | array items => "[" ++ ", ".intercalate (innerTexts items) ++ "]"
  | map members => "#\x7b" ++ ", ".intercalate (memberTexts members) ++ "\x7d"
  | range first last closed => rangeText first last closed

/-- The texts that stand for values. -/
def innerTexts : List Value → List String
  | [] => []
  | v :: rest => inner v :: innerTexts rest

/-- The texts that stand for the members of a map. -/
def memberTexts : List (String × Value) → List String
  | [] => []
  | (name, v) :: rest => (Text.quoted name ++ ": " ++ inner v) :: memberTexts rest

end

/-- The text that is printed for a value. -/
def display : Value → String
  | unit => ""
  | float x => floatText x
  | char c => String.ofList [c]
  | string s => s
  | v => v.inner

/-! ### Parts -/

end Value

/-- What a part of a value is reached by. -/
inductive Key where
  | index (position : Int64)
  | entry (name : String)
  | member (name : String)

/-- The key that a value is as an index. -/
def Key.ofValue? : Value → Option Key
  | .integer i => some (.index i)
  | .string s => some (.entry s)
  | _ => none

/-- A position in a list of this length; a negative one counts from the end. -/
def position? (length : Nat) (i : Int64) : Option Nat :=
  let n := i.toInt
  if n < 0 then
    if length < n.natAbs then none else some (length - n.natAbs)
  else if n.toNat < length then some n.toNat
  else none

/-- The members of a map with another value under a name. -/
def putMember (name : String) (v : Value) : List (String × Value) → List (String × Value)
  | [] => [(name, v)]
  | first :: rest =>
    if name < first.1 then (name, v) :: first :: rest
    else if name = first.1 then (name, v) :: rest
    else first :: putMember name v rest

namespace Value

/-- The number of items, members or characters. -/
def length? : Value → Option Nat
  | array items => some items.length
  | map members => some members.length
  | string s => some s.toList.length
  | _ => none

/-- The part of a value. A member that a map does not have is the unit; arrays and strings have
their length as a member. -/
def at? (v : Value) (key : Key) : Option Value :=
  match v, key with
  | array items, .index i => (position? items.length i).bind fun n => items[n]?
  | string s, .index i => (position? s.toList.length i).bind fun n => (s.toList[n]?).map char
  | map members, .entry name | map members, .member name =>
    some ((members.lookup name).getD unit)
  | array items, .member "len" => some (integer (Int64.ofNat items.length))
  | string s, .member "len" => some (integer (Int64.ofNat s.toList.length))
  | _, _ => none

/-- The value with another part. -/
def put? (v : Value) (key : Key) (part : Value) : Option Value :=
  match v, key with
  | array items, .index i => (position? items.length i).map fun n => array (items.set n part)
  | map members, .entry name | map members, .member name =>
    some (map (putMember name part members))
  | _, _ => none

/-- The part that a row of keys leads to. -/
def reach? (v : Value) : List Key → Option Value
  | [] => some v
  | key :: rest => do (← v.at? key).reach? rest

/-- The value with another part where a row of keys leads to. -/
def putAt? (v : Value) (part : Value) : List Key → Option Value
  | [] => some part
  | key :: rest => do v.put? key (← (← v.at? key).putAt? part rest)

/-- An array with one more item. -/
def grow? (v item : Value) : Option Value :=
  match v with
  | array items => some (array (items ++ [item]))
  | _ => none

end Value

end VectorScene.Script
