import VectorScene.Script.Scan
import VectorScene.Script.Syntax

/-!
# Grammar of scripts

The program that the tokens of a script stand for. A script that is not well formed is refused with
the number of the line of the first token that does not fit.

Statements end in semicolons, except those that end in a block and the last one of a block. What
stands where a truth value, an index or something to go through is wanted is refused if its form
shows that it is none.

## Main definitions

* `Parse`, `Parser`: the tokens that are left, with the names declared so far
* `expression`, `statement`, `statements`: what scripts are made of
* `Program.ofText?`: the program of a script
-/

namespace VectorScene.Script

/-- The tokens that are left, the names declared so far with whether they are constant, the
innermost first, and the functions. -/
structure Parse where
  lexemes : List Lexeme
  names : List (String × Bool) := []
  functions : List Function := []

/-- A step of reading tokens, which fails with the number of a line. -/
abbrev Parser := StateT Parse (Except Nat)

namespace Parse

/-- The next token with its line. -/
def lexeme : Parser Lexeme := return (← get).lexemes.head?.getD ⟨.finish, 0⟩

/-- The next token. -/
def peek : Parser Token := return (← lexeme).token

/-- Refuses the next token. -/
def refuse {α : Type} : Parser α := do throw (← lexeme).line

/-- Refuses something unless it is right. -/
def require (isRight : Bool) : Parser Unit := if isRight then return else refuse

/-- Goes past a token. -/
def advance : Parser Unit := modify fun s => { s with lexemes := s.lexemes.tail }

/-- Whether the next token is a mark. -/
def isAt (mark : Mark) : Parser Bool := do
  match ← peek with
  | .mark m => return m == mark
  | _ => return false

/-- Goes past a mark if it is the next token. -/
def accept (mark : Mark) : Parser Bool := do
  if ← isAt mark then
    advance
    return true
  else return false

/-- Goes past a mark, which has to be the next token. -/
def expect (mark : Mark) : Parser Unit := do require (← accept mark)

/-- Goes past a keyword, which has to be the next token. -/
def expectWord (word : Keyword) : Parser Unit := do
  match ← peek with
  | .keyword k => if k = word then advance else refuse
  | _ => refuse

/-- Goes past a name. -/
def name : Parser String := do
  match ← peek with
  | .name n =>
    require !(functionWords.contains n)
    advance
    return n
  | _ => refuse

/-- Declares a name. -/
def declare (name : String) (isConstant : Bool) : Parser Unit :=
  modify fun s => { s with names := (name, isConstant) :: s.names }

/-- Whether a statement ends in front of the next token. -/
def isAtEnd : Parser Bool := do
  match ← peek with
  | .mark .semicolon | .mark .closeBrace | .finish => return true
  | _ => return false

/-- Reads what stands in a block: names declared inside are not known behind it. -/
def enclosed {α : Type} (inside : Parser α) : Parser α := do
  let names := (← get).names
  let a ← inside
  modify fun s => { s with names }
  return a

end Parse

/-! ### Forms that are refused -/

/-- Whether the form of an expression allows a truth value. -/
def Expression.mayBeTruth : Expression → Bool
  | .literal (.bool _) => true
  | .literal _ | .template _ | .array _ | .map .. => false
  | _ => true

/-- Whether the form of an expression allows that its parts are gone through. -/
def Expression.mayBeIterable : Expression → Bool
  | .literal (.string _) => true
  | .literal _ | .map .. => false
  | _ => true

/-- Whether the form of an expression allows an index. -/
def Expression.mayBeIndex : Expression → Bool
  | .literal (.integer _) | .literal (.string _) => true
  | .literal _ | .both .. | .either .. => false
  | _ => true

/-- Whether the form of an expression allows this index. -/
def Expression.mayHaveIndex (target position : Expression) : Bool :=
  match target, position with
  | .literal (.integer _), _ | .literal (.string _), .literal (.integer _) => true
  | .literal _, .literal _ | .both .., .literal _ | .either .., .literal _ => false
  | .map .., .literal (.integer _) | .array _, .literal (.string _)
  | .template _, .literal (.string _) => false
  | _, _ => true

/-- The negation of an expression; that of a number is a number. -/
def Expression.negated : Expression → Expression
  | .literal (.integer i) =>
    .literal (if i = Int64.minValue then .float (2.0 ^ 63) else .integer (-i))
  | .literal (.float x) => .literal (.float (-x))
  | e => .negate e

/-- An expression with a plus sign; that of a number is the number. -/
def Expression.signed : Expression → Expression
  | .literal (.integer i) => .literal (.integer i)
  | .literal (.float x) => .literal (.float x)
  | e => .identity e

/-- Two operands with their operator. -/
def Expression.combined (o : Operator) (left right : Expression) : Parser Expression :=
  match o with
  | .both => do
    Parse.require (left.mayBeTruth && right.mayBeTruth)
    return .both left right
  | .either => do
    Parse.require (left.mayBeTruth && right.mayBeTruth)
    return .either left right
  | _ => return .apply o left right

/-- Whether an operator takes the operand in front of it from another operator of the given
strength. -/
def Operator.bindsInside (o : Operator) (strength : Nat) : Bool :=
  strength < o.strength || (strength == o.strength && o.isRightBound)

/-- Whether an expression can be assigned to, as far as its names are known. -/
def Parse.isAssignable (target : Expression) : Parser Bool := do
  match target with
  | .named name => return ((← get).names.lookup name) != some true
  | _ => return target.path?.isSome

/-- Whether a statement ends in a block, and so needs no semicolon. -/
def Statement.endsInBlock : Statement → Bool
  | .block _ | .branch .. | .whilst .. | .forever _ | .each .. | .attempt .. => true
  | _ => false

/-! ### Expressions and statements

The first argument bounds the depth of the recursion, and the flag tells whether a loop is around.
-/

open Parse in
mutual

/-- Reads an expression. -/
def expression : Nat → Bool → Parser Expression
  | 0, _ => refuse
  | n + 1, loop => do operators n loop 0 (← operand n loop)

/-- Reads the operators behind an operand that bind inside an operator of the given strength. -/
def operators : Nat → Bool → Nat → Expression → Parser Expression
  | 0, _, _, _ => refuse
  | n + 1, loop, outer, left => do
    match ← peek with
    | .operator o =>
      if o.bindsInside outer then
        advance
        let right ← operand n loop
        let right ← match ← peek with
          | .operator next =>
            if next.bindsInside o.strength then operators n loop o.strength right else pure right
          | _ => pure right
        operators n loop outer (← Expression.combined o left right)
      else return left
    | _ => return left

/-- Reads an operand with its signs. -/
def operand : Nat → Bool → Parser Expression
  | 0, _ => refuse
  | n + 1, loop => do
    match ← peek with
    | .operator .subtract =>
      advance
      return (← operand n loop).negated
    | .operator .add =>
      advance
      return (← operand n loop).signed
    | .mark .negation =>
      advance
      return .complement (← operand n loop)
    | _ => accesses n loop (← primary n loop)

/-- Reads an operand without signs, indices and members. -/
def primary : Nat → Bool → Parser Expression
  | 0, _ => refuse
  | n + 1, loop => do
    match ← peek with
    | .integer i =>
      advance
      return .literal (.integer i)
    | .float x =>
      advance
      return .literal (.float x)
    | .char c =>
      advance
      return .literal (.char c)
    | .string s =>
      advance
      return .literal (.string s)
    | .keyword .yes =>
      advance
      return .literal (.bool true)
    | .keyword .no =>
      advance
      return .literal (.bool false)
    | .keyword .self =>
      advance
      return .named Keyword.self.text
    | .template .. => return .template (← parts n loop)
    | .name x =>
      advance
      if ← accept .openParen then return .call x (← items n loop .closeParen)
      else
        require !(functionWords.contains x)
        return .named x
    | .mark .openParen =>
      advance
      if ← accept .closeParen then return .literal .unit
      else
        let e ← expression n loop
        expect .closeParen
        return e
    | .mark .openBracket =>
      advance
      return .array (← items n loop .closeBracket)
    | .mark .openMap =>
      advance
      let members ← members n loop []
      return .map (members.map (·.1)) (members.map (·.2))
    | .mark .openBrace => return .statement (.block (← block n loop))
    | .keyword .branch | .keyword .whilst | .keyword .forever | .keyword .each =>
      return .statement (← statement n loop)
    | _ => refuse

/-- Reads the indices and members behind an operand. -/
def accesses : Nat → Bool → Expression → Parser Expression
  | 0, _, _ => refuse
  | n + 1, loop, target => do
    if ← accept .point then
      let member ← name
      if ← accept .openParen then
        accesses n loop (.method target member (← items n loop .closeParen))
      else accesses n loop (.member target member)
    else if ← accept .openBracket then
      let position ← expression n loop
      require (position.mayBeIndex && target.mayHaveIndex position)
      expect .closeBracket
      accesses n loop (.index target position)
    else return target

/-- Reads expressions with commas between them, up to a mark. -/
def items : Nat → Bool → Mark → Parser (List Expression)
  | 0, _, _ => refuse
  | n + 1, loop, close => do
    if ← accept close then return []
    else
      let e ← expression n loop
      if ← accept close then return [e]
      else
        expect .comma
        return e :: (← items n loop close)

/-- Reads the members of a map, which have other names than those before them. -/
def members : Nat → Bool → List String → Parser (List (String × Expression))
  | 0, _, _ => refuse
  | n + 1, loop, before => do
    if ← accept .closeBrace then return []
    else
      let name ← match ← peek with
        | .name x | .string x => pure x
        | _ => refuse
      require !(before.contains name)
      advance
      expect .colon
      let e ← expression n loop
      if ← accept .closeBrace then return [(name, e)]
      else
        expect .comma
        return (name, e) :: (← members n loop (name :: before))

/-- Reads the stretches and the blocks of a template. -/
def parts : Nat → Bool → Parser (List Expression)
  | 0, _ => refuse
  | n + 1, loop => do
    match ← peek with
    | .template text more =>
      advance
      if more then
        let body ← block n loop
        return .literal (.string text) :: .statement (.block body) :: (← parts n loop)
      else return [.literal (.string text)]
    | _ => refuse

/-- Reads a block. -/
def block : Nat → Bool → Parser (List Statement)
  | 0, _ => refuse
  | n + 1, loop => do
    expect .openBrace
    let body ← enclosed (statements n loop)
    expect .closeBrace
    return body

/-- Reads statements up to the end of a block or of the script. -/
def statements : Nat → Bool → Parser (List Statement)
  | 0, _ => refuse
  | n + 1, loop => do
    if ← accept .semicolon then statements n loop
    else if ← isAtEnd then return []
    else
      let s ← statement n loop
      require (s.endsInBlock || (← isAtEnd))
      return s :: (← statements n loop)

/-- Reads the value of a statement that may have none. -/
def value? : Nat → Bool → Parser (Option Expression)
  | 0, _ => refuse
  | n + 1, loop => do if ← isAtEnd then return none else return some (← expression n loop)

/-- Reads a statement. -/
def statement : Nat → Bool → Parser Statement
  | 0, _ => refuse
  | n + 1, loop => do
    match ← peek with
    | .mark .openBrace => return .block (← block n loop)
    | .keyword .branch =>
      advance
      branch n loop
    | .keyword .whilst =>
      advance
      let condition ← expression n loop
      require condition.mayBeTruth
      return .whilst condition (← block n true)
    | .keyword .forever =>
      advance
      return .forever (← block n true)
    | .keyword .each =>
      advance
      each n loop
    | .keyword .leave =>
      require loop
      advance
      return .leave (← value? n loop)
    | .keyword .skip =>
      require loop
      advance
      return .skip
    | .keyword .give =>
      advance
      return .give (← value? n loop)
    | .keyword .raise =>
      advance
      return .raise (← value? n loop)
    | .keyword .attempt =>
      advance
      let body ← block n loop
      expectWord .rescue
      rescue n loop body
    | .keyword .declare =>
      advance
      declaration n loop false
    | .keyword .constant =>
      advance
      declaration n loop true
    | _ =>
      let e ← expression n loop
      match ← peek with
      | .assign o =>
        advance
        let v ← expression n loop
        require (← isAssignable e)
        return .assign e o v
      | _ => return .expression e

/-- Reads a condition with its blocks. -/
def branch : Nat → Bool → Parser Statement
  | 0, _ => refuse
  | n + 1, loop => do
    let condition ← expression n loop
    require condition.mayBeTruth
    let yes ← block n loop
    match ← peek with
    | .keyword .otherwise =>
      advance
      match ← peek with
      | .keyword .branch =>
        advance
        return .branch condition yes [← branch n loop]
      | _ => return .branch condition yes (← block n loop)
    | _ => return .branch condition yes []

/-- Reads a loop over the parts of a value. -/
def each : Nat → Bool → Parser Statement
  | 0, _ => refuse
  | n + 1, loop => do
    let (item, counter) ←
      if ← accept .openParen then do
        let item ← name
        expect .comma
        let counter ← name
        require (item != counter)
        expect .closeParen
        pure (item, some counter)
      else do pure (← name, none)
    expectWord .within
    let source ← expression n loop
    require source.mayBeIterable
    let body ← enclosed do
      declare item false
      match counter with
      | some c => declare c false
      | none => pure ()
      block n true
    return .each item counter source body

/-- Reads what is done about a failure. -/
def rescue : Nat → Bool → List Statement → Parser Statement
  | 0, _, _ => refuse
  | n + 1, loop, body => do
    if ← accept .openParen then
      let caught ← name
      expect .closeParen
      let handler ← enclosed do
        declare caught false
        block n loop
      return .attempt body (some caught) handler
    else return .attempt body none (← block n loop)

/-- Reads a declaration behind its keyword. -/
def declaration : Nat → Bool → Bool → Parser Statement
  | 0, _, _ => refuse
  | n + 1, loop, isConstant => do
    let x ← name
    match ← peek with
    | .assign none =>
      advance
      let v ← expression n loop
      declare x isConstant
      return .declare x isConstant (some v)
    | _ =>
      declare x isConstant
      return .declare x isConstant none

end

/-! ### Scripts -/

namespace Parse

/-- Reads the parameters of a function, up to the closing parenthesis. -/
def parameters : Nat → List String → Parser (List String)
  | 0, _ => refuse
  | n + 1, before => do
    if ← accept .closeParen then return before
    else
      require (match ← peek with
        | .name x => !(before.contains x)
        | _ => false)
      let before := before ++ [← name]
      if ← accept .closeParen then return before
      else
        expect .comma
        parameters n before

/-- Reads a function behind its keyword. It does not see the variables around it. -/
def function (n : Nat) : Parser Unit := do
  let x ← name
  expect .openParen
  let parameters ← parameters n []
  let isKnown := (← get).functions.any fun f =>
    f.name == x && f.parameters.length == parameters.length
  require !isKnown
  let body ← enclosed do
    modify fun s => { s with names := parameters.map (·, false) }
    block n false
  modify fun s => { s with functions := s.functions ++ [⟨x, parameters, body⟩] }

/-- Reads the statements of a script, in which functions may be defined. -/
def script : Nat → Parser (List Statement)
  | 0 => refuse
  | n + 1 => do
    match ← peek with
    | .finish => return []
    | .mark .semicolon =>
      advance
      script n
    | .keyword .function =>
      advance
      function n
      script n
    | _ =>
      let s ← statement n false
      require (s.endsInBlock || (← isAtEnd))
      return s :: (← script n)

end Parse

/-- How deep the recursion goes for each token at most. -/
def depthPerToken : Nat := 16

/-- The program of a script, or the number of the line in which the script is not well formed. -/
def Program.ofText? (text : String) : Except Nat Program := do
  let lexemes := lexemes text
  let (body, s) ← (Parse.script (depthPerToken * (lexemes.length + 1))).run { lexemes }
  return ⟨s.functions, body, lexemes.length⟩

end VectorScene.Script
