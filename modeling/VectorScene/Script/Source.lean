import VectorScene.Text.Blank

/-!
# Script source

A script is written line by line: `#` and `//` start a comment, and the end of a line ends a
statement. The expression language wants a semicolon behind each statement, so lines are stripped of
their comments and terminated before they are read. No line is added or lost.

A line gets a semicolon unless it is blank or ends in a character that leaves the statement open or
has closed it. A closing brace ends a statement only if it closes a map, which is opened by a brace
directly behind `#`.

## Main definitions

* `code`: a line without its comment
* `Brace`, `track`: the braces that are open behind a line
* `isOpen`: the characters that leave a statement open or have closed it
* `terminated`: a line with its semicolon
* `prepare`: a whole script with its comments gone and its statements terminated
-/

namespace VectorScene.Script

/-- The characters that open and close a literal. -/
def isQuote (c : Char) : Bool := c == '"' || c == '\x60' || c == '\''

/-- The text up to its comment. A literal that is open is given by its quote; the character before
the text is given, and whether all before it is blank. A backslash in a literal takes the next
character with it. -/
def codeFrom (quote : Option Char) (before : Option Char) (blank : Bool) :
    List Char → List Char
  | [] => []
  | c :: rest =>
    match quote with
    | some q =>
      if c = '\\' then
        match rest with
        | [] => [c]
        | d :: rest => c :: d :: codeFrom quote (some d) false rest
      else c :: codeFrom (if c = q then none else quote) (some c) false rest
    | none =>
      if isQuote c then c :: codeFrom (some c) (some c) false rest
      else if c = '/' ∧ rest.head? = some '/' then []
      else if c = '#' ∧ rest.head? ≠ some '\x7b' ∧ (blank ∨ before.any Text.isAsciiBlank) then []
      else c :: codeFrom none (some c) (blank && Text.isBlank c) rest

/-- A line without its comment and the blanks before it. -/
def code (line : List Char) : List Char := Text.trimEnd (codeFrom none none true line)

/-- What an open brace started. -/
inductive Brace where
  | block
  | map
deriving DecidableEq, Repr

/-- The braces that are open, the innermost first, and what the last closing brace of the line
closed. -/
structure Track where
  stack : List Brace
  closed : Option Brace
deriving DecidableEq, Repr

namespace Track

/-- The track behind an opening brace. -/
def opened (t : Track) (b : Brace) : Track := { t with stack := b :: t.stack }

/-- The track behind a closing brace. -/
def close (t : Track) : Track := ⟨t.stack.tail, t.stack.head?⟩

end Track

/-- The track behind a text, with the open literal and the character before the text as in
`codeFrom`. -/
def trackFrom (quote : Option Char) (before : Option Char) (t : Track) : List Char → Track
  | [] => t
  | c :: rest =>
    match quote with
    | some q =>
      if c = '\\' then
        match rest with
        | [] => t
        | d :: rest => trackFrom quote (some d) t rest
      else trackFrom (if c = q then none else quote) (some c) t rest
    | none =>
      if isQuote c then trackFrom (some c) (some c) t rest
      else if c = '\x7b' then
        trackFrom none (some c) (t.opened (if before = some '#' then .map else .block)) rest
      else if c = '\x7d' then trackFrom none (some c) t.close rest
      else trackFrom none (some c) t rest

/-- The track behind a line, given the braces that are open before it. -/
def track (stack : List Brace) (code : List Char) : Track := trackFrom none none ⟨stack, none⟩ code

/-- The characters that, at the end of a line, leave its statement open or have closed it. -/
def isOpen (c : Char) : Bool :=
  [';', '\x7b', ',', '(', '[', '+', '-', '*', '/', '=', '&', '|', '<', '>'].contains c

/-- Whether a line gets a semicolon, given what its last closing brace closed. -/
def needsTerminator (code : List Char) (closed : Option Brace) : Bool :=
  match code.getLast? with
  | none => false
  | some c => if c = '\x7d' then closed == some .map else !isOpen c

/-- A line with its semicolon, if it needs one. -/
def terminated (code : List Char) (closed : Option Brace) : List Char :=
  if needsTerminator code closed then code ++ [';'] else code

/-- Lines with their comments gone and their statements terminated. -/
def prepareLines : List Brace → List (List Char) → List (List Char)
  | _, [] => []
  | stack, line :: rest =>
    let t := track stack (code line)
    terminated (code line) t.closed :: prepareLines t.stack rest

/-- The characters of a prepared script. -/
def prepareChars (text : List Char) : List Char :=
  (prepareLines [] (Text.lines text)).flatMap (· ++ ['\n'])

/-- A script with its comments gone and its statements terminated. -/
def prepare (text : String) : String := String.ofList (prepareChars text.toList)

end VectorScene.Script
