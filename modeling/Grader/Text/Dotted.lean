/-!
Dotted names such as `os.path.join`, compared component by component.
-/

namespace Grader.Text.Dotted

/-- Whether `name` is `root` or lies below it, as `a.b` lies below `a`. -/
def isWithin (name root : String) : Bool :=
  name == root || (root.toList ++ ['.']).isPrefixOf name.toList

/-- Whether `name` is one of the roots or lies below one. -/
def isWithinAny (name : String) (roots : List String) : Bool := roots.any (isWithin name)

/-- The characters after the last dot, or all of them when there is none. -/
def lastOf (cs : List Char) : List Char := (cs.reverse.takeWhile (· != '.')).reverse

/-- The last component of a dotted name. -/
def lastSegment (name : String) : String := String.ofList (lastOf name.toList)

/-- The components of a dotted name, empty ones included. -/
def components : List Char → List (List Char)
  | [] => [[]]
  | c :: rest =>
    if c = '.' then [] :: components rest
    else match components rest with
      | [] => [[c]]
      | first :: others => (c :: first) :: others

end Grader.Text.Dotted
