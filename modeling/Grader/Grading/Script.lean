import Grader.Grading.Registry
import Grader.Policy.Basic
import Grader.Random.Draw
import Grader.Source.Unit
import Grader.Value.Text

/-!
What a check does: a script of the operations that a check may ask for. Every operation answers,
or fails, and the script goes on from the answer; so a script may handle the failure of an
operation, pass it on, or fail on its own at any point.
-/

namespace Grader

/-- The cases of a table, and the failure that ends them if going through them fails. -/
structure Cases where
  items : List Value
  broken : Option Failure := none

def Cases.ofValue (v : Value) : Cases :=
  match v.items? with
  | .ok items => ⟨items, none⟩
  | .error f => ⟨[], some f⟩

/-- How the evaluation of cases went: whether all of them held, and how many were evaluated. -/
structure CaseOutcome where
  passed : Bool
  evaluated : Nat
  deriving Repr, DecidableEq

/-- What an inspection looks at: a submission, or one that is to be found by its name. -/
inductive Target where
  | unit (u : SourceUnit)
  | named (name : String)

/-- What a check does. -/
inductive Script where
  /-- Ends with a value. -/
  | done (v : Value)
  /-- Fails. -/
  | fail (f : Failure)
  /-- Leaves a value for the one who runs the check. -/
  | note (label : String) (v : Value) (next : Script)
  /-- Awards points if an outcome holds. -/
  | grading (points : Int) (description : String) (outcome : Script)
      (next : Except Failure Bool → Script)
  /-- Awards points if a predicate holds for every case; the first case for which it does not is
  explained. The predicate also gets the number of the case. -/
  | gradingEach (points : Int) (description : String) (cases : Cases)
      (predicate : Nat → Value → Script) (explain : Value → Script)
      (next : Except Failure CaseOutcome → Script)
  /-- Adds a line to the transcript. -/
  | comment (text : String) (position : Option Position) (next : Script)
  /-- Whether a predicate holds for a submission that parses. -/
  | inspect (target : Target) (predicate : SourceUnit → Script)
      (next : Except Failure Bool → Script)
  /-- The submission of a path or name. -/
  | unit (name : String) (next : Except Failure SourceUnit → Script)
  /-- Random data. -/
  | draw (d : Draw Value) (next : Except Failure Value → Script)
  /-- The policy of the run. -/
  | policy (next : Policy → Script)

namespace Script

/-- The arguments that a case stands for: the items of a tuple, or the case alone. -/
def arguments : Value → List Value
  | .tuple items => items
  | v => [v]

/-- What is said about a case that nobody explains. -/
def unexplained (c : Value) : Script :=
  match c.written Value.shown with
  | .ok s => .done (.str ("failed for " ++ s))
  | .error f => .fail f

/-- Goes on from an answer and passes a failure on. -/
def andThen {α : Type} (next : α → Script) : Except Failure α → Script
  | .ok a => next a
  | .error f => .fail f

end Script

end Grader
