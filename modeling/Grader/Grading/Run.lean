import Grader.Grading.Session
import Grader.Rule.Engine

/-!
A run: the report of the rules and the checks, one after the other, become one score and one
transcript. A check that fails is graded with zero of zero points and does not disturb the others;
only failures that end the whole process end the run, and failures that cannot be described: what
describing them raises leaves the run.
-/

namespace Grader

/-- The outcome of a run. -/
structure Result where
  score : Int
  maximum : Nat
  /-- The points awarded less the deductions. -/
  raw : Int
  lines : List Line
  grades : List Grade
  report : Report
  /-- The names of the checks that failed. -/
  failed : List String
  notes : List Note

namespace Run

/-- The line about signs of cheating, if there are any. -/
def integrityLines (p : Policy) (r : Report) : List Line :=
  if r.integrityViolated then
    let consequence := if p.zeroOnCheat then "score is set to 0" else "flagged for review"
    [{ kind := .integrity
       text := s!"[CHEAT] Integrity check failed: {r.cheats.length} cheat indicator(s) detected, "
        ++ consequence }]
  else []

def violationLine (v : Violation) : Line :=
  { kind := .violation, text := v.message, position := some v.position }

/-- The line of a rule that could not be evaluated. -/
def diagnosticLine (d : Diagnostic) : Line :=
  { kind := .diagnostic, text := d.message, unit := some d.unit }

/-- The lines about the report of the rules. -/
def reportLines (p : Policy) (r : Report) : List Line :=
  integrityLines p r ++ r.violations.map violationLine ++ r.diagnostics.map diagnosticLine

/-- The line in front of what a check adds. -/
def checkLine (number : Nat) (c : Check Script) : Line :=
  { kind := .check, text := s!"Check {number}: {c.description}" }

def failedGrade (c : Check Script) : Grade := ⟨c.name, c.name ++ " did not complete", 0, 0, false⟩

/-- The line of a check that failed, given the description of its failure. -/
def failedLine (c : Check Script) (description : String) : Line :=
  { kind := .diagnostic, text := s!"[FAILED] Check {c.name} raised {description}" }

/-- Runs one check: the name of the check if it failed, and the session after it. -/
def runCheck (setting : Setting) (number : Nat) (c : Check Script) (s : Session) :
    Except Failure (List String × Session) :=
  match setting.play c.name c.body (s.emit (checkLine number c)) with
  | (.ok _, s) => .ok ([], s)
  | (.error f, s) => do
    let description ← f.contained
    let s ← s.record (failedGrade c)
    return ([c.name], s.emit (failedLine c description))

/-- Runs checks, the first of which has the number `n`: the names of those that failed, and the
session after them. -/
def runChecks (setting : Setting) : Nat → List (Check Script) → Session →
    Except Failure (List String × Session)
  | _, [], s => .ok ([], s)
  | n, c :: rest, s => do
    let (failed, s) ← runCheck setting n c s
    let (others, s) ← runChecks setting (n + 1) rest s
    return (failed ++ others, s)

/-- What the deductions of a report cost, as a part of the summary. -/
def costText (r : Report) : Except Failure String :=
  if r.deduction = 0 then .ok ""
  else (Decimal.spelled r.deduction).map fun text =>
    s!", -{text} for {r.violations.length} violation(s)"

/-- The summary of a score, unless one of its numbers has too many digits to be written. -/
def summary (score : Score) (r : Report) (final : Int) : Except Failure String := do
  let awarded ← Decimal.spelled score.awarded
  let possible ← Decimal.spelled score.possible
  let cost ← costText r
  let final ← Decimal.spelled final
  let maximum ← Decimal.spelled score.maximum
  return s!"Current points: {final} of {maximum} ({awarded} of {possible} points{cost})"

/-- The session before the first check. -/
def opening (p : Policy) (r : Report) (source : Twister) : Except Failure Session :=
  let score : Score := ⟨p.maxScore, p.maxScore_pos, [], 0, none⟩
  match score.deduct r.deduction with
  | .ok score => .ok { score, lines := reportLines p r, source }
  | .error e => .error e.failure

/-- The result of a run, given the session after the last check. -/
def conclude (p : Policy) (r : Report) (failed : List String) (s : Session) :
    Except Failure Result :=
  match s.score.settle (r.integrityViolated && p.zeroOnCheat) with
  | .error e => .error e.failure
  | .ok (final, score) =>
    (summary score r final).map fun text => {
      score := final
      maximum := p.maxScore
      raw := score.raw
      lines := (s.emit { kind := .summary, text }).lines
      grades := score.grades
      report := r
      failed
      notes := s.notes }

/-- Runs checks on submissions, given the report of the rules and a source of random data. -/
def withReport (checks : List (Check Script)) (p : Policy) (units : List SourceUnit) (fs : Files)
    (r : Report) (source : Twister) : Except Failure Result := do
  let s ← opening p r source
  let (failed, s) ← runChecks ⟨p, Setting.byPath units, fs⟩ 1 checks s
  conclude p r failed s

end Run

/-- Runs the rules of an engine and checks on submissions. -/
def Engine.run (e : Engine) (checks : List (Check Script)) (p : Policy) (units : List SourceUnit)
    (fs : Files) (source : Twister) : Except Failure Result := do
  Run.withReport checks p units fs (← e.evaluate p units) source

end Grader
