/-!
White space and trimming. `isBlank` is the class of characters that trimming removes, and
`strip` removes them at both ends of a text.
-/

namespace Grader.Text

/-- White space of Unicode, with the four information separators of ASCII among it. -/
def isBlank (c : Char) : Bool :=
  let n := c.toNat
  (9 ≤ n && n ≤ 13) || (28 ≤ n && n ≤ 32) || n == 0x85 || n == 0xA0 || n == 0x1680 ||
    (0x2000 ≤ n && n ≤ 0x200A) || n == 0x2028 || n == 0x2029 || n == 0x202F || n == 0x205F ||
    n == 0x3000

def isSpace (c : Char) : Bool := isBlank c && !(28 ≤ c.toNat && c.toNat ≤ 31)

/-- The characters without white space at their two ends. -/
def trimSpace (cs : List Char) : List Char :=
  ((cs.dropWhile isSpace).reverse.dropWhile isSpace).reverse

/-- The characters left when blanks are removed at the front. -/
def trimFront (cs : List Char) : List Char := cs.dropWhile isBlank

/-- The characters left when blanks are removed at the back. -/
def trimBack (cs : List Char) : List Char := (trimFront cs.reverse).reverse

/-- A text without the blanks at its two ends. -/
def strip (s : String) : String := String.ofList (trimBack (trimFront s.toList))

/-- Whether the text is non-empty and has no blank at either end. -/
def isTrimmed (s : String) : Bool := s.toList != [] && strip s == s

end Grader.Text
