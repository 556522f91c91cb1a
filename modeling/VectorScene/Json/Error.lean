import VectorScene.Text.Blank
import VectorScene.Decimal.Layout
import VectorScene.Text.Quoted

/-!
# Errors of reading JSON text

Reading stops at the first fault. What is wrong is a cause; where it is wrong is a line and a
column, counted in bytes, unless the fault lies in a whole value whose place is not known.

## Main definitions

* `Found`, `Wanted`: what the text holds and what the reader expects, as messages name them
* `Cause`: what is wrong
* `Position`: a place in the text
* `Error`: a cause with its place
-/

namespace VectorScene.Json

/-- What stands in the text, as a message names it. -/
inductive Found where
  | nothing
  | boolean (value : Bool)
  | integer (value : Int)
  | float (value : Float)
  | string (value : String)
  | sequence
  | map

namespace Found

/-- The name in a message. -/
def message : Found → String
  | nothing => "null"
  | boolean value => s!"boolean `{value}`"
  | integer value => s!"integer `{value}`"
  | float value =>
    if Decimal.isFinite value then s!"floating point `{Decimal.Layout.document.render value}`"
    else "null"
  | string value => "string " ++ Text.quoted value
  | sequence => "sequence"
  | map => "map"

end Found

/-- What a reader expects, as a message names it. -/
inductive Wanted where
  | sequence
  | map
  | text
  | boolean
  | word
  | entry
  | settings
deriving DecidableEq, Repr

namespace Wanted

/-- The name in a message. -/
def message : Wanted → String
  | sequence => "a sequence"
  | map => "a map"
  | text => "a string"
  | boolean => "a boolean"
  | word => "u32"
  | entry => "struct HistoryEntry"
  | settings => "struct SceneSettings"

end Wanted

/-- What is wrong with a text. -/
inductive Cause where
  | endInArray
  | endInObject
  | endInString
  | endInValue
  | colonExpected
  | commaOrBracketExpected
  | commaOrBraceExpected
  | wordExpected
  | valueExpected
  | badEscape
  | badNumber
  | numberTooLarge
  | controlCharacter
  | keyExpected
  | loneSurrogate
  | trailingComma
  | trailingText
  | unfinishedEscape
  | nestedTooDeep
  | wrongType (found : Found) (wanted : Wanted)
  | wrongValue (found : Found) (wanted : Wanted)
  | missingField (name : String)
  | repeatedField (name : String)
  | unknownField (name : String) (known : List String)
  | wrongLength (length : Nat) (wanted : Wanted) (fields : Nat)
  | noValue

namespace Cause

/-- The words for a cause. -/
def message : Cause → String
  | endInArray => "EOF while parsing a list"
  | endInObject => "EOF while parsing an object"
  | endInString => "EOF while parsing a string"
  | endInValue => "EOF while parsing a value"
  | colonExpected => "expected `:`"
  | commaOrBracketExpected => "expected `,` or `]`"
  | commaOrBraceExpected => "expected `,` or `\x7d`"
  | wordExpected => "expected ident"
  | valueExpected => "expected value"
  | badEscape => "invalid escape"
  | badNumber => "invalid number"
  | numberTooLarge => "number out of range"
  | controlCharacter => "control character (\\u0000-\\u001F) found while parsing a string"
  | keyExpected => "key must be a string"
  | loneSurrogate => "lone leading surrogate in hex escape"
  | trailingComma => "trailing comma"
  | trailingText => "trailing characters"
  | unfinishedEscape => "unexpected end of hex escape"
  | nestedTooDeep => "recursion limit exceeded"
  | wrongType found wanted => s!"invalid type: {found.message}, expected {wanted.message}"
  | wrongValue found wanted => s!"invalid value: {found.message}, expected {wanted.message}"
  | missingField name => s!"missing field `{name}`"
  | repeatedField name => s!"duplicate field `{name}`"
  | unknownField name known =>
    let list := Text.joined ", " (known.map fun k => s!"`{k}`")
    s!"unknown field `{name}`, expected one of {list}"
  | wrongLength length wanted fields =>
    s!"invalid length {length}, expected {wanted.message} with {fields} elements"
  | noValue => "data did not match any variant of untagged enum Value"

end Cause

/-- A place in a text. Lines count from one, columns in bytes from the start of the line. -/
structure Position where
  line : Nat
  column : Nat
deriving DecidableEq, Repr

namespace Position

/-- The place behind a character. -/
def after (p : Position) (c : Char) : Position :=
  if c = '\n' then ⟨p.line + 1, 0⟩ else ⟨p.line, p.column + c.utf8Size⟩

/-- The place behind the first byte of a character. -/
def into (p : Position) (c : Char) : Position :=
  if c = '\n' then ⟨p.line + 1, 0⟩ else ⟨p.line, p.column + 1⟩

end Position

/-- Why a text could not be read. -/
structure Error where
  cause : Cause
  position : Option Position

namespace Error

/-- The message: the cause, and the place if it is known. -/
def message (e : Error) : String :=
  match e.position with
  | some p => s!"{e.cause.message} at line {p.line} column {p.column}"
  | none => e.cause.message

/-- The line of the fault; zero if the place is not known. -/
def line (e : Error) : Nat := (e.position.map (·.line)).getD 0

/-- The column of the fault; zero if the place is not known. -/
def column (e : Error) : Nat := (e.position.map (·.column)).getD 0

end Error

end VectorScene.Json
