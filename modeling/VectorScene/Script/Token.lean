import VectorScene.Decimal.Integer
import VectorScene.Script.Operator

/-!
# Tokens

A script is a row of tokens, each with the number of its line. The text of a template is cut into
stretches; between two of them stand the tokens of the block whose value is inserted.

## Main definitions

* `Keyword`, `Mark`, `Token`: words with a meaning of their own, symbols, and all tokens
* `Lexeme`: a token with its line
* `Token.ofWord`: the token of a word
* `symbols`: the tokens that are no words
* `Token.expectsOperand`: whether an operand starts behind a token
-/

namespace VectorScene.Script

/-- The words with a meaning of their own. -/
inductive Keyword where
  | yes
  | no
  | declare
  | constant
  | branch
  | otherwise
  | whilst
  | forever
  | each
  | within
  | function
  | give
  | raise
  | attempt
  | rescue
  | leave
  | skip
  | self
deriving DecidableEq, Repr

namespace Keyword

/-- The text of a keyword. -/
def text : Keyword → String
  | yes => "true"
  | no => "false"
  | declare => "let"
  | constant => "const"
  | branch => "if"
  | otherwise => "else"
  | whilst => "while"
  | forever => "loop"
  | each => "for"
  | within => "in"
  | function => "fn"
  | give => "return"
  | raise => "throw"
  | attempt => "try"
  | rescue => "catch"
  | leave => "break"
  | skip => "continue"
  | self => "this"

/-- All keywords. -/
def all : List Keyword :=
  [yes, no, declare, constant, branch, otherwise, whilst, forever, each, within, function, give,
    raise, attempt, rescue, leave, skip, self]

/-- The keyword of a word. -/
def ofText? (word : String) : Option Keyword := all.find? (·.text == word)

end Keyword

/-- The symbols that are no operators between two operands. -/
inductive Mark where
  | negation
  | openParen
  | closeParen
  | openBracket
  | closeBracket
  | openBrace
  | closeBrace
  | openMap
  | comma
  | semicolon
  | colon
  | point
deriving DecidableEq, Repr

/-- The tokens. -/
inductive Token where
  | integer (value : Int64)
  | float (value : Float)
  | char (value : Char)
  | string (value : String)
  /-- A stretch of a template; the flag says whether a block and another stretch follow. -/
  | template (text : String) (more : Bool)
  | name (text : String)
  | keyword (word : Keyword)
  | operator (operator : Operator)
  /-- The sign of an assignment, which may combine the old value with an operator. -/
  | assign (operator : Option Operator)
  | mark (mark : Mark)
  /-- A word or a symbol that has no meaning yet, or a text that is no token. -/
  | unusable
  /-- The end of the script. -/
  | finish

/-- A token with the number of its line. -/
structure Lexeme where
  token : Token
  line : Nat

/-- The words without a meaning that no variable may be named by. -/
def reservedWords : List String :=
  ["var", "static", "shared", "goto", "match", "case", "public", "protected", "new", "use", "with",
    "is", "module", "package", "super", "thread", "spawn", "go", "await", "async", "sync", "yield",
    "default", "void", "null", "nil", "switch", "do", "until", "private", "import", "export", "as",
    "Fn", "call", "curry", "eval", "type_of", "is_shared", "is_def_var", "is_def_fn"]

/-- The words that name functions only. -/
def functionWords : List String := ["print", "debug"]

/-- Whether a word may name a variable: its first character that is no underscore is a letter. -/
def isName (word : List Char) : Bool :=
  match word.dropWhile (· == '_') with
  | [] => false
  | c :: _ => c.isAlpha

namespace Token

/-- The token of a word. -/
def ofWord (word : List Char) : Token :=
  let text := String.ofList word
  match Keyword.ofText? text with
  | some k => .keyword k
  | none => if reservedWords.contains text || !isName word then .unusable else .name text

/-- The token of an integer, which is a float if it does not fit into 64 bits. -/
def ofInteger (i : Int) (float : Float) : Token :=
  match Decimal.toInt64? i with
  | some n => .integer n
  | none => .float float

/-- Whether an operand starts behind a token, so that a minus there is a sign. -/
def expectsOperand : Token → Bool
  | operator _ | assign _ | template _ true => true
  | mark m =>
    [Mark.negation, .openParen, .openBracket, .openBrace, .comma, .semicolon, .colon].contains m
  | keyword k => [Keyword.branch, .whilst, .within, .give, .raise].contains k
  | _ => false

end Token

/-- The tokens that are no words, the longer ones first. Some have no meaning. -/
def symbols : List (List Char × Token) :=
  [(['*', '*', '='], .assign (some .power)), (['<', '<', '='], .assign (some .shiftLeft)),
    (['>', '>', '='], .assign (some .shiftRight)), (['.', '.', '='], .operator .through),
    (['.', '.', '.'], .unusable), (['=', '=', '='], .unusable), (['!', '=', '='], .unusable),
    ([':', ':', '<'], .unusable), (['*', '*'], .operator .power),
    (['<', '<'], .operator .shiftLeft), (['>', '>'], .operator .shiftRight),
    (['.', '.'], .operator .upTo), (['=', '='], .operator .equal), (['!', '='], .operator .unequal),
    (['<', '='], .operator .lessEqual), (['>', '='], .operator .greaterEqual),
    (['&', '&'], .operator .both), (['|', '|'], .operator .either),
    (['+', '='], .assign (some .add)), (['-', '='], .assign (some .subtract)),
    (['*', '='], .assign (some .multiply)), (['/', '='], .assign (some .divide)),
    (['%', '='], .assign (some .remainder)), (['&', '='], .assign (some .bitAnd)),
    (['|', '='], .assign (some .bitOr)), (['^', '='], .assign (some .bitXor)),
    (['#', '\x7b'], .mark .openMap), (['-', '>'], .unusable), (['<', '-'], .unusable),
    (['<', '|'], .unusable), (['|', '>'], .unusable), ([':', '='], .unusable),
    ([':', ':'], .unusable), (['=', '>'], .unusable), (['(', '*'], .unusable),
    (['*', ')'], .unusable), (['+', '+'], .unusable), (['-', '-'], .unusable),
    (['!', '.'], .unusable), (['+'], .operator .add), (['-'], .operator .subtract),
    (['*'], .operator .multiply), (['/'], .operator .divide), (['%'], .operator .remainder),
    (['<'], .operator .less), (['>'], .operator .greater), (['&'], .operator .bitAnd),
    (['|'], .operator .bitOr), (['^'], .operator .bitXor), (['='], .assign none),
    (['!'], .mark .negation), (['('], .mark .openParen), ([')'], .mark .closeParen),
    (['['], .mark .openBracket), ([']'], .mark .closeBracket), (['\x7b'], .mark .openBrace),
    (['\x7d'], .mark .closeBrace), ([','], .mark .comma), ([';'], .mark .semicolon),
    ([':'], .mark .colon), (['.'], .mark .point)]

end VectorScene.Script
