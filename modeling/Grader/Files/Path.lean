/-!
Paths as text: their components, their normal form, and the parts of a file's name.
-/

namespace Grader.Path

/-- The pieces of a text between slashes, empty ones included. -/
def splitSlashes : List Char → List (List Char)
  | [] => [[]]
  | c :: rest =>
    if c = '/' then [] :: splitSlashes rest
    else match splitSlashes rest with
      | [] => [[c]]
      | first :: others => (c :: first) :: others

/-- The components of a path without empty ones and single dots. -/
def components (path : String) : List String :=
  ((splitSlashes path.toList).map String.ofList).filter fun c => c != "" && c != "."

/-- What stands for the root: nothing, one slash, or exactly two. -/
def rootOf (path : String) : String :=
  match path.toList with
  | '/' :: '/' :: '/' :: _ => "/"
  | '/' :: '/' :: _ => "//"
  | '/' :: _ => "/"
  | _ => ""

/-- The normal form: no empty components, no single dots, no slash at the end. -/
def normal (path : String) : String :=
  let body := rootOf path ++ String.intercalate "/" (components path)
  if body = "" then "." else body

/-- The last component, empty when there is none. -/
def name (path : String) : String := (components path).getLast?.getD ""

/-- The position of the dot that starts the suffix of a name. -/
def suffixStart? (cs : List Char) : Option Nat :=
  let tail := cs.reverse.takeWhile (· != '.')
  let i := cs.length - tail.length
  if tail.length = cs.length || i ≤ 1 || tail = [] then none else some (i - 1)

/-- The suffix of the last component, with its dot. -/
def suffix (path : String) : String :=
  let cs := (name path).toList
  match suffixStart? cs with
  | some i => String.ofList (cs.drop i)
  | none => ""

end Grader.Path
