/-!
# Blank characters and lines

Text is a list of characters here. Blank are the characters of the property `White_Space` of the
Unicode standard; a line ends at a line feed, and a carriage return directly before it belongs to
the line end.

## Main definitions

* `isBlank`, `isAsciiBlank`: the two notions of white space
* `trimStart`, `trimEnd`, `trim`: text without blanks at an end
* `lines`: the lines of a text
* `joined`: texts with a separator between them
-/

namespace VectorScene.Text

/-- The characters of the property `White_Space`. -/
def isBlank (c : Char) : Bool :=
  let n := c.toNat
  (9 ≤ n && n ≤ 13) || n == 0x20 || n == 0x85 || n == 0xa0 || n == 0x1680
    || (0x2000 ≤ n && n ≤ 0x200a) || n == 0x2028 || n == 0x2029 || n == 0x202f || n == 0x205f
    || n == 0x3000

/-- The blanks among the ASCII characters, without the vertical tab. -/
def isAsciiBlank (c : Char) : Bool :=
  c == ' ' || c == '\t' || c == '\n' || c == '\x0c' || c == '\r'

theorem isBlank_of_isWhitespace (c : Char) (h : c.isWhitespace) : isBlank c := by
  simp only [Char.isWhitespace, Bool.or_eq_true, decide_eq_true_eq] at h
  rcases h with ((h | h) | h) | h <;> subst h <;> decide

/-- The text without its leading blanks. -/
def trimStart (text : List Char) : List Char := text.dropWhile isBlank

/-- The text without its trailing blanks. -/
def trimEnd (text : List Char) : List Char := (text.reverse.dropWhile isBlank).reverse

/-- The text without blanks at either end. -/
def trim (text : List Char) : List Char := trimEnd (trimStart text)

/-- The stretches of text between the line feeds; there is one more of them than line feeds. -/
def segments : List Char → List (List Char)
  | [] => [[]]
  | c :: rest =>
    if c = '\n' then [] :: segments rest
    else match segments rest with
      | first :: others => (c :: first) :: others
      | [] => [[c]]

theorem segments_ne_nil (text : List Char) : segments text ≠ [] := by
  cases text with
  | nil => simp [segments]
  | cons c rest =>
    unfold segments
    split
    · simp
    · split <;> simp

/-- A line without the carriage return before its line feed. -/
def dropReturn (line : List Char) : List Char :=
  if line.getLast? = some '\r' then line.dropLast else line

/-- The lines whose line feeds separate these stretches. The last stretch is a line of its own
unless it is empty. -/
def linesOfSegments : List (List Char) → List (List Char)
  | [] => []
  | [last] => if last.isEmpty then [] else [last]
  | segment :: rest => dropReturn segment :: linesOfSegments rest

/-- The lines of a text. A line feed at the very end opens no further line. -/
def lines (text : List Char) : List (List Char) := linesOfSegments (segments text)

/-- The texts one after another with the separator between them. -/
def joined (separator : String) (texts : List String) : String := separator.intercalate texts

end VectorScene.Text
