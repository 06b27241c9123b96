import Grader.Source.Tree

/-!
Tokens of a source text, and the faults that end the scanning of one.
-/

namespace Grader.Source

inductive TokenKind where
  | name | keyword | number | text | operator | newline | indent | dedent | endOfText
  deriving Repr, DecidableEq

/-- Where the scanner stood: the line it had reached, the bytes and characters it had read of
that line, and the first of the lines that it held in view. -/
structure Scan where
  line : Nat
  bytes : Nat
  chars : Nat
  view : Nat
  deriving Repr

/-- A token. Indentation tokens and the end of the text have no columns. -/
structure Token where
  kind : TokenKind
  text : String
  line : Nat
  column : Option Nat
  endLine : Nat
  endColumn : Nat
  /-- The number of brackets open behind the token. -/
  level : Nat
  /-- Where the scanner stood behind the token. -/
  scan : Scan
  deriving Repr

/-- The place of a token; one without a column counts as the start of its line. -/
def Token.location (t : Token) : Location := ⟨t.line, t.column.getD 0⟩

structure Bracket where
  mark : Char
  line : Nat
  column : Nat
  deriving Repr

/-- Why scanning ended before the end of the text. -/
inductive ScanFault where
  /-- A fault with its text and its place, counted in characters from 1. -/
  | worded (message : String) (line column : Nat)
  /-- A line returns to an indentation that no open block has. -/
  | unindent
  /-- Tabs and blanks do not compare. -/
  | tabs
  /-- Too many open blocks. -/
  | depth
  /-- Something follows a backslash on its line; the byte offset is that from the first line in
  view. -/
  | continuation (offset : Nat)
  /-- The text ends inside a bracket or behind a backslash. -/
  | ended
  deriving Repr

/-- The outcome of scanning: the tokens, the fault that cut them off, where the scanner stood in
the end, and the brackets that were open then, the innermost first. -/
structure Scanned where
  tokens : Array Token
  fault : Option ScanFault
  scan : Scan
  brackets : List Bracket

end Grader.Source
