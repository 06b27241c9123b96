import Grader.Policy.Basic
import Grader.Rule.Report
import Grader.Source.Unit

/-!
Rules. A rule looks at one parsable submission and gives violations one after the other; it may
fail after some of them. What a violation costs is not the rule's business.
-/

namespace Grader

structure Finding where
  position : Position
  message : String
  deriving Repr, DecidableEq

/-- The violation of a rule that a finding in a submission is. -/
def Finding.violation (rule : String) (severity : Severity) (u : SourceUnit) (f : Finding) :
    Violation :=
  ⟨rule, severity, u.path, f.position, f.message⟩

/-- What a rule gives for one submission: violations, and then possibly a failure. -/
structure Yield where
  violations : List Violation
  failure : Option Failure := none
  deriving Repr, DecidableEq

structure Rule where
  name : String
  severity : Severity := .ordinary
  description : String := ""
  /-- The name under which the rule shows itself. -/
  title : String := "Rule"
  /-- Whether the rule applies to real submissions only. -/
  onlyRealistic : Bool := false
  check : SourceUnit → Policy → Yield

namespace Rule

/-- Whether the rule applies under a policy, which must know it. -/
def applies (r : Rule) (p : Policy) : Except Failure Bool :=
  if r.onlyRealistic && !p.realistic then .ok false else p.isEnabled r.name

/-- How the rule shows itself. -/
def shown (r : Rule) : String := "<" ++ r.title ++ " " ++ r.name ++ ">"

/-- The failure of a rule whose violations ran out. -/
def exhausted : Failure := ⟨"RuntimeError", "generator raised StopIteration", []⟩

/-- The rule that gives the first violations of another one and then fails. If there are not so many
violations, their running out is the failure, as is a failure that signals the end of violations. -/
def interrupted (r : Rule) (count : Nat) (f : Failure) : Rule :=
  { r with check := fun u p =>
      let found := (r.check u p).violations
      ⟨found.take count,
        some (if found.length < count || f.kind == "StopIteration" then exhausted else f)⟩ }

/-- A rule without a check of its own, which always fails. -/
def unimplemented (name : String) : Rule :=
  { name, check := fun _ _ => ⟨[], some ⟨"NotImplementedError", "", []⟩⟩ }

end Rule

end Grader
