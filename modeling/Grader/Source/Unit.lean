import Grader.Source.Parse
import Grader.Source.Node
import Grader.Position
import Grader.Files.Path

/-!
Source units: submission files, parsed or marked as unparsable. Making a unit of a text never
fails; a text that does not parse gives a unit that says why.
-/

namespace Grader

open Source

/-- What became of the text of a unit. -/
inductive Content where
  | parsed (tree : Tree)
  /-- Why the text does not parse, and where, by line and column from 1. -/
  | rejected (message : String) (line column : Nat)

/-- A submission file. -/
structure SourceUnit where
  path : String
  content : Content

namespace SourceUnit

/-- The error of a text with a null character. -/
def nullMessage : String := "source code string cannot contain null bytes"

/-- The unit of a text; `shown` gives the lines of an existing file of the same name. -/
def ofText (path text : String) (shown : Nat → Option (List Char) := fun _ => none) : SourceUnit :=
  let cs := text.toList
  if cs.contains '\x00' then ⟨path, .rejected nullMessage 1 1⟩
  else match parseModule shown cs with
    | .ok tree => ⟨path, .parsed tree⟩
    | .error f => ⟨path, .rejected s!"{f.message} (line {f.line})" f.line f.column⟩

def tree? (u : SourceUnit) : Option Tree :=
  match u.content with
  | .parsed tree => some tree
  | .rejected _ _ _ => none

/-- Whether the unit has a tree. -/
def parsable (u : SourceUnit) : Bool := u.tree?.isSome

/-- The last component of the path. -/
def name (u : SourceUnit) : String := Path.name u.path

/-- Why the unit does not parse. -/
def error (u : SourceUnit) : Option String :=
  match u.content with
  | .parsed _ => none
  | .rejected message _ _ => some message

/-- Where the unit does not parse, the start of the file for a parsable one. -/
def errorPosition (u : SourceUnit) : Position :=
  match u.content with
  | .parsed _ => ⟨u.path, 1, 1⟩
  | .rejected _ line column => ⟨u.path, line, column⟩

/-- Every classified node in document order; none for an unparsable unit. -/
def nodes (u : SourceUnit) : List Node := u.tree?.elim [] Source.nodes

/-- The nodes that a kind covers, in document order. -/
def select (u : SourceUnit) (kind : Kind) : List Node := u.tree?.elim [] (selected kind)

def positionOf (u : SourceUnit) (n : Node) : Position :=
  let (line, column) := n.place
  ⟨u.path, line, column⟩

end SourceUnit

end Grader
