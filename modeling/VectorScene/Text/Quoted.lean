import VectorScene.Text.Hexadecimal
import VectorScene.Text.Visible

/-!
# Quoted text in messages

A text in a message stands between quotes, with the characters that would not show written as
escapes.

## Main definitions

* `escapedChar`: a character between the quotes
* `quoted`: the text of a message between quotes
-/

namespace VectorScene.Text

/-- A character as it stands between the quotes of a message. -/
def escapedChar (c : Char) : List Char :=
  match c with
  | '"' => ['\\', '"']
  | '\\' => ['\\', '\\']
  | '\t' => ['\\', 't']
  | '\n' => ['\\', 'n']
  | '\r' => ['\\', 'r']
  | '\x00' => ['\\', '0']
  | _ =>
    if isPlain c then [c]
    else ['\\', 'u', '\x7b'] ++ hexDigits c.toNat ++ ['\x7d']

/-- A text between quotes. -/
def quoted (text : String) : String :=
  String.ofList ('"' :: text.toList.flatMap escapedChar ++ ['"'])

end VectorScene.Text
