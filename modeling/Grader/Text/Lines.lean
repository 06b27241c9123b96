/-!
Lines of a text. A line ends at any of Unicode's line boundaries, and a carriage return followed
by a line feed is one boundary. `splitLines` gives the contents of the lines without the
boundaries; `unixLines` turns every carriage return boundary into a line feed.
-/

namespace Grader.Text

/-- Characters that end a line of a transcript. -/
def isLineBreak (c : Char) : Bool :=
  let n := c.toNat
  (10 ≤ n && n ≤ 13) || (28 ≤ n && n ≤ 30) || n == 0x85 || n == 0x2028 || n == 0x2029

/-- Puts a character in front of the first line, which is a new one when there is none yet. -/
def consLine (c : Char) : List (List Char) → List (List Char)
  | [] => [[c]]
  | line :: lines => (c :: line) :: lines

/-- The contents of the lines, in order; nothing follows a boundary at the end of the text. -/
def splitLines : List Char → List (List Char)
  | [] => []
  | '\r' :: '\n' :: rest => [] :: splitLines rest
  | c :: rest => if isLineBreak c then [] :: splitLines rest else consLine c (splitLines rest)

def lines (s : String) : List String := (splitLines s.toList).map String.ofList

/-- Every carriage return, alone or before a line feed, becomes one line feed. -/
def unixLines : List Char → List Char
  | [] => []
  | '\r' :: '\n' :: rest => '\n' :: unixLines rest
  | '\r' :: rest => '\n' :: unixLines rest
  | c :: rest => c :: unixLines rest

/-- The pieces between the line feeds; there is always at least one. -/
def splitFeeds : List Char → List (List Char)
  | [] => [[]]
  | '\n' :: rest => [] :: splitFeeds rest
  | c :: rest => consLine c (splitFeeds rest)

/-- The bytes that characters take in UTF-8. -/
def byteCount (cs : List Char) : Nat := cs.foldr (fun c n => c.utf8Size + n) 0

end Grader.Text
