import Grader.Failure
import Grader.Position

/-!
The lines of a transcript: what they are about, their text, and the position or the file in front
of it.
-/

namespace Grader

inductive LineKind where
  | integrity | violation | diagnostic | check | grade | comment | summary
  deriving Repr, DecidableEq

namespace LineKind

/-- All kinds of lines. -/
def all : List LineKind := [integrity, violation, diagnostic, check, grade, comment, summary]

/-- The word for a kind. -/
def text : LineKind → String
  | integrity => "integrity"
  | violation => "violation"
  | diagnostic => "diagnostic"
  | check => "check"
  | grade => "grade"
  | comment => "comment"
  | summary => "summary"

/-- The kind of a word. -/
def ofText (s : String) : Except Failure LineKind :=
  match all.find? (·.text == s) with
  | some k => .ok k
  | none => .error (.value (Text.Quoted.text s ++ " is not a valid LineKind"))

end LineKind

structure Line where
  kind : LineKind
  text : String
  position : Option Position := none
  /-- The path of the submission that the line is about. -/
  unit : Option String := none
  deriving Repr, DecidableEq

namespace Line

/-- What stands in front of the text. -/
def lead (l : Line) : String :=
  match l.position, l.unit with
  | some p, _ => p.text ++ ": "
  | none, some u => if u = "" then "" else u ++ ": "
  | none, none => ""

/-- The written form. -/
def render (l : Line) : String := l.lead ++ l.text

end Line

end Grader
