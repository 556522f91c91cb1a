import VectorScene.Script.Numeral

/-!
# Text literals

A string stands between quotes on one line. A backslash starts an escape, and a doubled quote is a
quote. A template stands between back-ticks, may run over several lines and has no escapes; `${`
interrupts it with a block.

## Main definitions

* `escape`: the character of an escape
* `quotedText`: the text up to the closing quote
* `stretch`: a template up to its end or to a block
-/

namespace VectorScene.Script

/-- The character of an escape of one letter. The closing quote stands for itself. -/
def escape (close : Char) : Char → Option Char
  | '\\' => some '\\'
  | 'n' => some '\n'
  | 'r' => some '\r'
  | 't' => some '\t'
  | c => if c = close then some close else none

/-- The character with this code in hexadecimal digits. -/
def charOfHex? (digits : List Char) : Option Char :=
  (Text.numberIn? 16 digits).bind fun n => if n.isValidChar then some (Char.ofNat n) else none

/-- A text with one more character in front, if there are both. -/
def push? (c : Option Char) (tail : Option (List Char × List Char)) :
    Option (List Char × List Char) :=
  match c, tail with
  | some c, some (text, rest) => some (c :: text, rest)
  | _, _ => none

/-- The text up to the closing quote, and what follows it. There is none if the line or the script
ends first, or if an escape is unknown. -/
def quotedText (close : Char) : List Char → Option (List Char × List Char)
  | [] => none
  | c :: rest =>
    if c = close then
      match rest with
      | d :: more =>
        if d = close then push? (some close) (quotedText close more) else some ([], rest)
      | [] => some ([], [])
    else if c = '\\' then
      match rest with
      | 'x' :: a :: b :: more => push? (charOfHex? [a, b]) (quotedText close more)
      | 'u' :: a :: b :: c :: d :: more =>
        push? (charOfHex? [a, b, c, d]) (quotedText close more)
      | 'U' :: a :: b :: c :: d :: e :: f :: g :: h :: more =>
        push? (charOfHex? [a, b, c, d, e, f, g, h]) (quotedText close more)
      | d :: more => push? (escape close d) (quotedText close more)
      | [] => none
    else if c = '\n' then none
    else push? (some c) (quotedText close rest)

/-- A template up to its end or to a block, whether it is a block, and what follows. A doubled
back-tick is a back-tick. -/
def stretch : List Char → Option (List Char × Bool × List Char)
  | [] => none
  | '\x60' :: '\x60' :: rest => (stretch rest).map fun (text, more) => ('\x60' :: text, more)
  | '\x60' :: rest => some ([], false, rest)
  | '$' :: '\x7b' :: rest => some ([], true, rest)
  | c :: rest => (stretch rest).map fun (text, more) => (c :: text, more)

end VectorScene.Script
