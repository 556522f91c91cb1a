import VectorScene.Decimal.Reading

/-!
# Identifiers

An identifier is made of ASCII letters, digits and underscores, and does not start with a digit.

## Main definitions

* `isIdentifierStart`, `isIdentifierPart`: the characters of identifiers
* `isIdentifier`: the identifiers
-/

namespace VectorScene.Text

/-- Whether a character may start an identifier. -/
def isIdentifierStart (c : Char) : Bool :=
  ('a' ≤ c && c ≤ 'z') || ('A' ≤ c && c ≤ 'Z') || c == '_'

/-- Whether a character may stand in an identifier. -/
def isIdentifierPart (c : Char) : Bool := isIdentifierStart c || Decimal.isDigit c

/-- Whether a text is an identifier. -/
def isIdentifier (name : String) : Bool :=
  match name.toList with
  | [] => false
  | c :: rest => isIdentifierStart c && rest.all isIdentifierPart

end VectorScene.Text
