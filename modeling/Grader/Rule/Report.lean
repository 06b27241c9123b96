import Grader.Position

/-!
What the rules report: violations, the rules that could not be evaluated, and the points that the
violations cost.
-/

namespace Grader

/-- Ordinary violations cost points; cheating raises an integrity flag instead. -/
inductive Severity where
  | ordinary | cheat
  deriving Repr, DecidableEq

def Severity.text : Severity → String
  | ordinary => "ordinary"
  | cheat => "cheat"

/-- A violation of a rule at a place in a submission. -/
structure Violation where
  rule : String
  severity : Severity
  /-- The path of the submission. -/
  unit : String
  position : Position
  message : String
  deriving Repr, DecidableEq

namespace Violation

def isCheat (v : Violation) : Bool := v.severity == .cheat

/-- The written form, with the position in front. -/
def render (v : Violation) : String := s!"{v.position.text}: {v.message}"

end Violation

/-- A rule that could not be evaluated on a submission. -/
structure Diagnostic where
  /-- The path of the submission. -/
  unit : String
  rule : String
  message : String
  deriving Repr, DecidableEq

/-- The written form, with the path in front. -/
def Diagnostic.render (d : Diagnostic) : String := s!"{d.unit}: {d.message}"

/-- The outcome of the rules for all submissions. -/
structure Report where
  violations : List Violation := []
  diagnostics : List Diagnostic := []
  /-- The points that the violations cost. -/
  deduction : Nat := 0
  deriving Repr, DecidableEq

namespace Report

def byRule (r : Report) (rule : String) : List Violation := r.violations.filter (·.rule == rule)

def cheats (r : Report) : List Violation := r.violations.filter Violation.isCheat

/-- Whether there is any sign of cheating. -/
def integrityViolated (r : Report) : Bool := r.violations.any Violation.isCheat

/-- The names of the rules that are violated, in the order of their first violations. -/
def violatedRules (r : Report) : List String :=
  r.violations.foldl (fun acc v => if acc.contains v.rule then acc else acc ++ [v.rule]) []

/-- How often each violated rule is violated. -/
def counts (r : Report) : List (String × Nat) :=
  r.violatedRules.map fun rule => (rule, (r.byRule rule).length)

/-- The written forms of violations and diagnostics, in order. -/
def render (r : Report) : List String :=
  r.violations.map Violation.render ++ r.diagnostics.map Diagnostic.render

end Report

end Grader
