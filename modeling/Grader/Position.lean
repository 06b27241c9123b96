/-!
Positions in submission files, ordered by file, then line, then column.
-/

namespace Grader

/-- A place in a file; lines and columns count from 1. -/
structure Position where
  file : String
  line : Int
  column : Int
  deriving Repr, DecidableEq

namespace Position

/-- The written form `file:line:column`. -/
def text (p : Position) : String := s!"{p.file}:{p.line}:{p.column}"

/-- Whether the place of `p` inside its file is that of `q` or an earlier one. -/
def notAfter (p q : Position) : Bool :=
  p.line < q.line || (p.line == q.line && p.column ≤ q.column)

/-- Whether `p` sorts before `q` or beside it: files by code points, then places. -/
def le (p q : Position) : Bool :=
  p.file < q.file || (p.file == q.file && p.notAfter q)

end Position

end Grader
