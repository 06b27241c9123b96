import Grader.Command.Arguments
import Grader.Command.Table
import Grader.Grading.Load
import Grader.Grading.Publish
import Grader.Intake

/-!
Running a command on files: the text that it prints, the files after it, and how it ends. The
policy is read first, then the submissions, then the checks, and the first of them that is refused
ends the command before anything is printed.
-/

namespace Grader

def version : String := "0.3.0"

inductive Ending where
  | exit (code : Nat)
  | usage (e : UsageError)
  /-- A failure that the command does not handle. -/
  | failed (f : Failure)
  deriving Repr, DecidableEq

/-- What a command leaves behind. -/
structure Outcome where
  output : String := ""
  complaint : String := ""
  files : Files
  ending : Ending := .exit 0
  /-- What publishing a result did, in order. -/
  effects : List Effect := []

namespace Ending

/-- The ending for an argument that is refused: for the failures that are handled it is a usage
error with their text. Other failures are not handled, nor is what forming the text raises. -/
def refusing (argument : String) (handled : Failure → Bool) (f : Failure) : Ending :=
  if handled f then
    match f.message with
    | .ok text => .usage (.invalid argument text)
    | .error g => .failed g
  else .failed f

/-- The status of the process. -/
def code : Ending → Nat
  | exit code => code
  | usage _ => 2
  | failed f => f.status

end Ending

namespace Command

def isValueFault (f : Failure) : Bool := f.isA "ValueError"

/-- Whether a failure to load checks is about the reference to them. -/
def isReferenceFault (f : Failure) : Bool :=
  f.isA "FileNotFoundError" || f.isA "ImportError" || f.isA "ValueError"

def givenPolicy (fs : Files) : Option String → Except Failure Policy
  | none => .ok .standard
  | some path => do
    let _ ← (← Intake.policyFile fs (Path.normal path)).required
    Policy.load fs path

/-- The policy of a command; fixture code is not checked for cheating. -/
def policyFor (fs : Files) (path : Option String) (selfTest : Bool) : Except Ending Policy := do
  let p ← (givenPolicy fs path).mapError (.refusing "--policy" isValueFault)
  if selfTest then (p.withOverrides [("realistic", .bool false)]).mapError .failed else return p

/-- The submissions of a command. All of them are accepted before the first is parsed. -/
def unitsFor (fs : Files) (files : List String) : Except Ending (List SourceUnit) := do
  let paths := files.map Path.normal
  let _ ← (paths.mapM fun p => (Intake.submission fs p).required).mapError
    (.refusing "FILES" isValueFault)
  (paths.mapM fun p => SourceUnit.load fs p).mapError .failed

/-- The directories of submissions, in order and each once, none expanded to a home directory. -/
def directories (fs : Files) (files : List String) : List String :=
  let all := files.map fun f => Files.parentOf (fs.absolute (Path.normal f))
  (all.mergeSort fun a b => (compare (Path.components a) (Path.components b)).isLE).eraseDups

/-- The checks of an evaluation. Those of a module that fails are replaced by one that fails. -/
def checksFor (i : Importer) (files : List String) (reference : String) :
    Except Ending (List (Check Script)) :=
  ((i.extend (directories i.files files)).loadOrFail reference).mapError
    (.refusing "--checks" isReferenceFault)

def tableOf (r : Report) : Table where
  title := "Policy Violations"
  columns := [{ heading := "Position" }, { heading := "Rule", centred := true },
    { heading := "Message" }]
  rows := (r.violations.map fun v => [v.position.text, v.rule, v.message]) ++
    r.diagnostics.map fun d => [d.unit, d.rule, d.message]

/-- Whether a report makes the command fail. -/
def fails (failOnViolation : Bool) (r : Report) : Bool :=
  failOnViolation && !r.violations.isEmpty

/-- The lines under the table of a report, given the text of the deduction. -/
def remarks (r : Report) (deduction : String) : List String :=
  [s!"Deduction: {deduction} point(s)"] ++
    (if r.integrityViolated then ["Cheat indicators detected!"] else []) ++
    if r.violations.isEmpty then ["No violations found."] else []

/-- Lines, each with its line feed. -/
def unlines (ls : List String) : String := String.join (ls.map (· ++ "\n"))

/-- Reports the violations in submissions. -/
def lintFiles (fs : Files) (files : List String) (policy : Option String)
    (failOnViolation : Bool) : Except Ending Outcome := do
  let p ← policyFor fs policy false
  let units ← unitsFor fs files
  let r ← (Engine.standard.evaluate p units).mapError .failed
  let table ← (tableOf r).lines.mapError .failed
  match Decimal.spelled r.deduction with
  | .error f => return { output := unlines table, files := fs, ending := .failed f }
  | .ok deduction =>
    return {
      output := unlines (table ++ remarks r deduction)
      files := fs
      ending := .exit (if fails failOnViolation r then 1 else 0) }

/-- The policy of an evaluation and the result that it comes to, before that is published. -/
def graded (i : Importer) (files : List String) (checks : String) (policy : Option String)
    (seed : Int) (selfTest : Bool) : Except Ending (Policy × Result) := do
  let p ← policyFor i.files policy selfTest
  let units ← unitsFor i.files files
  let cs ← checksFor i files checks
  let r ← (Engine.standard.run cs p units i.files (.ofSeed seed)).mapError .failed
  return (p, r)

/-- Where an evaluation publishes its result: on the console, unless it is to be quiet, and then in
a file for the record, if one is named. -/
def sinksFor (console : Console) (p : Policy) (results : Option String) (quiet : Bool) :
    Except Failure (List Sink) := do
  let record ← results.toList.mapM fun path => ResultFile.ofPath path p.resultScale
  return (if quiet then [] else [.console console]) ++ record.map .file

/-- What a publication leaves behind. A sink that fails makes the command fail. -/
def published (b : Publication) : Outcome :=
  let o : Outcome := { output := b.output, files := b.files, effects := b.effects }
  match b.failure with
  | none => o
  | some f =>
    if f.isA "SinkError" then
      { o with complaint := s!"[pyedunit] error: {f.text}\n", ending := .exit 2 }
    else { o with ending := .failed f }

/-- Grades submissions. -/
def evaluateFiles (i : Importer) (files : List String) (checks : String)
    (policy results : Option String) (seed : Int) (selfTest quiet : Bool) (console : Console) :
    Except Ending Outcome := do
  let (p, r) ← graded i files checks policy seed selfTest
  let sinks ← (sinksFor console p results quiet).mapError .failed
  return published (.ofSinks r i.files sinks)

def writePolicy (fs : Files) (path : String) (strict force : Bool) : Except Ending Outcome := do
  let path := Path.normal path
  if fs.hasPath path && !force then
    return {
      complaint := path ++ " already exists (use --force to overwrite)\n"
      files := fs
      ending := .exit 1 }
  else
    let p : Policy := if strict then .strict else .standard
    let fs ← (p.dump fs path).mapError .failed
    return { output := s!"Wrote policy to {path}\n", files := fs }

/-- Runs a command up to its ending, if that is not reached before. -/
def steps (i : Importer) (entropy : Int) (console : Console) :
    Command → Except Ending Outcome
  | lint files policy failOnViolation => lintFiles i.files files policy failOnViolation
  | evaluate files checks policy results seed selfTest quiet =>
    evaluateFiles i files checks policy results (seed.getD entropy) selfTest quiet console
  | initPolicy path strict force => writePolicy i.files path strict force
  | version => .ok { output := Grader.version ++ "\n", files := i.files }

/-- Runs a command. The entropy is the seed of an evaluation that is given none; results are
published on the console. -/
def run (i : Importer) (entropy : Int) (c : Command) (console : Console := .ready) : Outcome :=
  match c.steps i entropy console with
  | .ok o => o
  | .error e => { files := i.files, ending := e }

/-- Runs the command that arguments spell. -/
def runArguments (i : Importer) (entropy : Int) (args : List String)
    (console : Console := .ready) : Outcome :=
  match ofArguments args with
  | .ok c => c.run i entropy console
  | .error e => { files := i.files, ending := .usage e }

end Command

end Grader
