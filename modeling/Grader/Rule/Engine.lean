import Grader.Rule.Catalogue

/-!
Engines: catalogues of rules with distinct names, evaluated over submissions. An unparsable
submission gives one violation and is not shown to the rules. All violations are collected and then
sorted once, by submissions and, inside one, by places; at one place they keep the order of the
catalogue. A rule that fails contributes a diagnostic and no violation.
-/

namespace Grader

/-- The name under which unparsable submissions are reported. -/
def syntaxRule : String := "syntax"

/-- A catalogue of rules with distinct names. -/
structure Engine where
  rules : List Rule
  nodup_names : (rules.map (·.name)).Nodup

namespace Engine

/-- The names that occur more than once, sorted. -/
def repeatedNames (rules : List Rule) : List String :=
  let names := rules.map (·.name)
  ((names.filter fun n => 1 < names.count n).eraseDups).mergeSort (· ≤ ·)

/-- The engine of a catalogue, which must not name two rules alike. -/
def ofRules (rules : List Rule) : Except Failure Engine :=
  if h : (rules.map (·.name)).Nodup then .ok ⟨rules, h⟩
  else .error (.value ("Duplicate rule names: " ++ Text.Quoted.list (repeatedNames rules)))

/-- The engine of the ten rules. -/
def standard : Engine := ⟨Rule.catalogue, by decide⟩

instance : Inhabited Engine := ⟨standard⟩

/-- What is collected for a report: violations, each with the number of its submission, and
diagnostics. -/
structure Part where
  violations : List (Nat × Violation) := []
  diagnostics : List Diagnostic := []
  deriving Repr, DecidableEq

namespace Part

/-- Collections one after the other. -/
def concat (parts : List Part) : Part :=
  ⟨parts.flatMap (·.violations), parts.flatMap (·.diagnostics)⟩

/-- Whether a violation stays in front of one that was collected after it: submissions in order,
and inside one by places. -/
def inOrder (a b : Nat × Violation) : Bool :=
  a.1 < b.1 || (a.1 == b.1 && a.2.position.notAfter b.2.position)

/-- The violations in the order of a report; those that tie stay as they were collected. -/
def ordered (a : Part) : List Violation := (a.violations.mergeSort inOrder).map (·.2)

end Part

def syntaxViolation (u : SourceUnit) : Violation :=
  ⟨syntaxRule, .ordinary, u.path, u.errorPosition,
    "Could not parse file: " ++ (u.error.filter (· != "")).getD "unknown error"⟩

/-- The diagnostic of a rule that failed on a submission, given the description of the failure. -/
def diagnostic (r : Rule) (u : SourceUnit) (description : String) : Diagnostic :=
  ⟨u.path, r.name, s!"rule {r.name} could not be evaluated ({description})"⟩

/-- What a rule that applies contributes for a submission with a number. Only ordinary failures are
contained, and what describing one of them raises is not. -/
def inspect (p : Policy) (number : Nat) (u : SourceUnit) (r : Rule) : Except Failure Part :=
  let y := r.check u p
  match y.failure with
  | none => .ok ⟨y.violations.map (number, ·), []⟩
  | some f => f.handled.map fun description => ⟨[], [diagnostic r u description]⟩

/-- What a rule contributes for a submission under a policy. -/
def contribution (p : Policy) (number : Nat) (u : SourceUnit) (r : Rule) : Except Failure Part :=
  match r.applies p with
  | .error f => .error f
  | .ok false => .ok {}
  | .ok true => inspect p number u r

/-- What a submission contributes. -/
def part (e : Engine) (p : Policy) (number : Nat) (u : SourceUnit) : Except Failure Part :=
  if u.parsable then (e.rules.mapM (contribution p number u)).map Part.concat
  else .ok ⟨[(number, syntaxViolation u)], []⟩

/-- What submissions contribute, the first of which has the number 0. -/
def collect (e : Engine) (p : Policy) (units : List SourceUnit) : Except Failure Part :=
  (units.zipIdx.mapM fun (u, number) => e.part p number u).map Part.concat

/-- How often a rule is violated. -/
def countOf (rule : String) (vs : List Violation) : Nat := vs.countP (·.rule == rule)

/-- Whether any violation of a rule is ordinary. -/
def isCharged (rule : String) (vs : List Violation) : Bool :=
  vs.any fun v => v.severity == .ordinary && v.rule == rule

/-- The points that the violations of a rule cost, if any of them is ordinary. -/
def charge (p : Policy) (vs : List Violation) (r : Rule) : Except Failure Nat :=
  if isCharged r.name vs then
    (p.settings r.name).map fun s => s.deduction (countOf r.name vs)
  else .ok 0

/-- The points that violations cost. -/
def deduction (e : Engine) (p : Policy) (vs : List Violation) : Except Failure Nat :=
  (e.rules.mapM (charge p vs)).map fun points =>
    p.syntaxErrorPenalty * countOf syntaxRule vs + points.foldr (· + ·) 0

/-- Evaluates the rules over submissions. -/
def evaluate (e : Engine) (p : Policy) (units : List SourceUnit) : Except Failure Report := do
  let all ← e.collect p units
  let points ← e.deduction p all.ordered
  return ⟨all.ordered, all.diagnostics, points⟩

end Engine

end Grader
