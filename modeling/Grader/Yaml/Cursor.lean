/-!
A place in a document, with the text from there on. Lines end at a line feed, a next line character
or one of the two separators; the end of the document reads as a null character, which no document
holds.
-/

namespace Grader.Yaml

/-- Characters that end a line. -/
def isBreak (c : Char) : Bool := c == '\n' || c == '\x85' || c == '\u2028' || c == '\u2029'

/-- Line ends and the end of the document. -/
def isBreakOrEnd (c : Char) : Bool := c == '\x00' || isBreak c

/-- Characters that end a word: a blank, a line end or the end of the document. -/
def isGap (c : Char) : Bool := c == ' ' || isBreakOrEnd c

/-- Characters that end a word, a tab among them. -/
def isWideGap (c : Char) : Bool := c == '\t' || isGap c

/-- Letters, digits, the hyphen and the underscore. -/
def isNameChar (c : Char) : Bool := c.isAlphanum || c == '-' || c == '_'

/-- A place in a document. -/
structure Cursor where
  rest : List Char
  index : Nat := 0
  line : Nat := 0
  column : Nat := 0
  deriving Repr

namespace Cursor

/-- The next character. -/
def peek (c : Cursor) : Char := c.rest.headD '\x00'

/-- The character that many places ahead. -/
def peekAt (c : Cursor) (n : Nat) : Char := (c.rest.drop n).headD '\x00'

/-- The next characters. -/
def ahead (c : Cursor) (n : Nat) : List Char := c.rest.take n

/-- One character further. A byte order mark takes no column. -/
def forward (c : Cursor) : Cursor :=
  match c.rest with
  | [] => c
  | x :: rest =>
    if isBreak x then ⟨rest, c.index + 1, c.line + 1, 0⟩
    else ⟨rest, c.index + 1, c.line, if x == '\uFEFF' then c.column else c.column + 1⟩

/-- That many characters further. -/
def skip (c : Cursor) : Nat → Cursor
  | 0 => c
  | n + 1 => c.forward.skip n

/-- The characters from here on that satisfy a test, and the place behind them. -/
def takeWhile (c : Cursor) (p : Char → Bool) : List Char × Cursor :=
  let cs := c.rest.takeWhile p
  (cs, c.skip cs.length)

/-- The place behind the characters that satisfy a test. -/
def skipWhile (c : Cursor) (p : Char → Bool) : Cursor := (c.takeWhile p).2

def skipBlanks (c : Cursor) : Cursor := c.skipWhile (· == ' ')

def skipComment (c : Cursor) : Cursor :=
  if c.peek == '#' then c.skipWhile fun x => !isBreakOrEnd x else c

/-- Skips one line end and gives the character that it stands for: a next line character counts as
a line feed. -/
def lineBreak (c : Cursor) : List Char × Cursor :=
  if isBreak c.peek then
    ([if c.peek == '\x85' then '\n' else c.peek], c.forward)
  else ([], c)

/-- Skips blanks as long as they indent less than a column. -/
def skipIndent (c : Cursor) (column : Nat) : Cursor :=
  c.skip (min (column - c.column) (c.rest.takeWhile (· == ' ')).length)

/-- Whether a document marker, three hyphens or three points, starts here. -/
def atMarker (c : Cursor) : Bool :=
  (c.ahead 3 == ['-', '-', '-'] || c.ahead 3 == ['.', '.', '.']) && isWideGap (c.peekAt 3)

end Cursor

end Grader.Yaml
