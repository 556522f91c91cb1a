import VectorScene.Script.Literal
import VectorScene.Text.Blank
import VectorScene.Text.Identifier

/-!
# Scanning

The tokens of a script. Blanks and comments between tokens are skipped; comments between `/*` and
`*/` nest.

## Main definitions

* `Gap`, `skipGap`: what stands between tokens
* `Scan`: a script of which a part has been scanned
* `Scan.next`: the next tokens
* `lexemes`: the tokens of a script
-/

namespace VectorScene.Script

/-- What stands between tokens. -/
inductive Gap where
  | blank
  /-- A comment up to the end of the line. -/
  | line
  /-- A comment inside so many others. -/
  | nested (outer : Nat)

/-- The text behind blanks and comments, and the number of its line. -/
def skipGap (line : Nat) : Gap → List Char → Nat × List Char
  | _, [] => (line, [])
  | .blank, '/' :: '/' :: rest => skipGap line .line rest
  | .blank, '/' :: '*' :: rest => skipGap line (.nested 0) rest
  | .blank, c :: rest =>
    if c = '\n' then skipGap (line + 1) .blank rest
    else if Text.isBlank c then skipGap line .blank rest
    else (line, c :: rest)
  | .line, c :: rest => if c = '\n' then skipGap (line + 1) .blank rest else skipGap line .line rest
  | .nested outer, '/' :: '*' :: rest => skipGap line (.nested (outer + 1)) rest
  | .nested 0, '*' :: '/' :: rest => skipGap line .blank rest
  | .nested (outer + 1), '*' :: '/' :: rest => skipGap line (.nested outer) rest
  | .nested outer, c :: rest => skipGap (if c = '\n' then line + 1 else line) (.nested outer) rest

/-- A script of which a part has been scanned. -/
structure Scan where
  rest : List Char
  /-- The number of the line that the rest starts in. -/
  line : Nat := 1
  /-- How many braces are open in each block that interrupts a template, the innermost first. -/
  insets : List Nat := []
  /-- Whether an operand is expected. -/
  operand : Bool := true

namespace Scan

/-- The scan behind a token. -/
def behind (s : Scan) (token : Token) (line : Nat) (rest : List Char) : List Lexeme × Option Scan :=
  match token with
  | .unusable | .finish => ([⟨token, line⟩], none)
  | _ => ([⟨token, line⟩], some { s with rest, line, operand := token.expectsOperand })

/-- The next stretch of a template. -/
def template (s : Scan) (line : Nat) (rest : List Char) : List Lexeme × Option Scan :=
  match stretch rest with
  | none => ([⟨.unusable, line⟩], none)
  | some (text, more, rest) =>
    let lexemes : List Lexeme := [⟨.template (String.ofList text) more, line⟩]
    let line := line + text.count '\n'
    if more then
      (lexemes ++ [⟨.mark .openBrace, line⟩],
        some { rest, line, insets := 0 :: s.insets, operand := true })
    else (lexemes, some { rest, line, insets := s.insets, operand := false })

/-- The braces that are open behind an opening one. -/
def opened : List Nat → List Nat
  | [] => []
  | n :: outer => (n + 1) :: outer

/-- The scan behind a symbol. A closing brace may end the block that interrupts a template. -/
def symbol (s : Scan) (line : Nat) (text : List Char) : List Lexeme × Option Scan :=
  match symbols.find? fun entry => entry.1.isPrefixOf text with
  | none => ([⟨.unusable, line⟩], none)
  | some (chars, token) =>
    let rest := text.drop chars.length
    match token, s.insets with
    | .mark .openBrace, insets | .mark .openMap, insets =>
      { s with insets := opened insets }.behind token line rest
    | .mark .closeBrace, 0 :: outer =>
      let (lexemes, s) := { s with insets := outer }.template line rest
      (⟨.mark .closeBrace, line⟩ :: lexemes, s)
    | .mark .closeBrace, (n + 1) :: outer => { s with insets := n :: outer }.behind token line rest
    | _, _ => s.behind token line rest

/-- The scan behind a text literal. -/
def literal (s : Scan) (token : List Char → Token) (line : Nat)
    (text : Option (List Char × List Char)) : List Lexeme × Option Scan :=
  match text with
  | some (text, rest) => s.behind (token text) line rest
  | none => s.behind .unusable line []

/-- The token of a literal between single quotes, which has one character. -/
def charToken : List Char → Token
  | [c] => .char c
  | _ => .unusable

/-- The next tokens, and the scan behind them unless the script ends. -/
def next (s : Scan) : List Lexeme × Option Scan :=
  let (line, text) := skipGap s.line .blank s.rest
  match text with
  | [] => s.behind .finish line []
  | c :: rest =>
    if Decimal.isDigit c then
      let (token, rest) := numeral false text
      s.behind token line rest
    else if c = '-' ∧ s.operand ∧ rest.head?.any Decimal.isDigit then
      let (token, rest) := numeral true rest
      s.behind token line rest
    else if Text.isIdentifierStart c then
      s.behind (.ofWord (text.takeWhile Text.isIdentifierPart)) line
        (text.dropWhile Text.isIdentifierPart)
    else if c = '"' then
      s.literal (fun chars => .string (String.ofList chars)) line (quotedText '"' rest)
    else if c = '\'' then s.literal charToken line (quotedText '\'' rest)
    else if c = '\x60' then s.template line rest
    else s.symbol line text

end Scan

/-- The tokens of the rest of a script. Each takes a character at least, so the number of characters
suffices as the number of steps. -/
def lexemesFrom : Nat → Scan → List Lexeme
  | 0, s => [⟨.finish, s.line⟩]
  | steps + 1, s =>
    match s.next with
    | (lexemes, some s) => lexemes ++ lexemesFrom steps s
    | (lexemes, none) => lexemes

/-- The tokens of a script. -/
def lexemes (text : String) : List Lexeme :=
  let chars := text.toList
  lexemesFrom (chars.length + 1) { rest := chars }

end VectorScene.Script
