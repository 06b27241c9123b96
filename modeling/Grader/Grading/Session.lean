import Grader.Decimal.Limit
import Grader.Grading.Score
import Grader.Grading.Script
import Grader.Grading.Transcript
import Grader.Source.Encoding

/-!
Running scripts. A session is what a run has so far: the score, the transcript, the source of
random data and the notes. `Setting.play` runs the script of a check: what it ends with, and the
session after it.
-/

namespace Grader

/-- A value that a check left for the one who runs it. -/
structure Note where
  check : String
  label : String
  value : Value

/-- What a run has so far. -/
structure Session where
  score : Score
  lines : List Line := []
  source : Twister
  notes : List Note := []

namespace Session

/-- Adds a line to the transcript. -/
def emit (s : Session) (l : Line) : Session := { s with lines := s.lines ++ [l] }

def comment (s : Session) (text : String) (position : Option Position) : Session :=
  s.emit { kind := .comment, text, position }

def note (s : Session) (n : Note) : Session := { s with notes := s.notes ++ [n] }

/-- Adds a grade to the score. -/
def record (s : Session) (g : Grade) : Except Failure Session :=
  match s.score.addGrade g with
  | .ok score => .ok { s with score }
  | .error e => .error e.failure

end Session

/-- What an operation answers, and the session after it. -/
abbrev Answer (α : Type) := Except Failure α × Session

/-- What checks can see: the policy, the submissions by their paths, and the files. -/
structure Setting where
  policy : Policy
  units : List SourceUnit
  files : Files

namespace Setting

/-- Adds a submission. One that has the path of an earlier one takes its place. -/
def addUnit (units : List SourceUnit) (u : SourceUnit) : List SourceUnit :=
  if units.any (·.path == u.path) then
    units.map fun v => if v.path == u.path then u else v
  else units ++ [u]

def byPath (units : List SourceUnit) : List SourceUnit := units.foldl addUnit []

/-- The submission of a path, or else the first one of a name. -/
def unit (c : Setting) (name : String) : Except Failure SourceUnit :=
  match (c.units.find? (·.path == name)) <|> (c.units.find? (·.name == name)) with
  | some u => .ok u
  | none => .error (.key ("No submission named " ++ name))

/-- The submission that an inspection looks at; one that is not among those of the run is read. -/
def target (c : Setting) : Target → Except Failure SourceUnit
  | .unit u => .ok u
  | .named name =>
    match c.unit name with
    | .ok u => .ok u
    | .error _ => SourceUnit.load c.files name

/-- Whether what an outcome ended with counts as true, and what is said if it failed. Failures that
are not ordinary are passed on, and so is what describing an ordinary one raises. -/
def resolve : Except Failure Value → Except Failure (Bool × Option String)
  | .ok v => .ok (v.truthy, none)
  | .error f => f.handled.map fun text => (false, some ("raised " ++ text))

/-- The line of a grade, given the text of its points. -/
def gradeLine (points description : String) (passed : Bool) : Line :=
  { kind := .grade
    text := if passed then s!"[OK] {description} ({points} points)"
      else s!"[FAILED] {description} (0 of {points} points)" }

/-- Adds a grade to the score and then its line to the transcript, unless the points have too many
digits to be written. -/
def award (check : String) (points : Int) (description : String) (passed : Bool) (s : Session) :
    Answer Unit :=
  match s.record ⟨check, description, if passed then points else 0, points, passed⟩ with
  | .error f => (.error f, s)
  | .ok s =>
    match Decimal.spelled points with
    | .error f => (.error f, s)
    | .ok text => (.ok (), s.emit (gradeLine text description passed))

/-- The failure for points below zero, which it names. -/
def negativePoints (points : Int) : Failure :=
  match Decimal.spelled points with
  | .ok text => .value ("Points must not be negative: " ++ text)
  | .error f => f

/-- Awards points if an outcome holds, and comments on an outcome that fails. -/
def grade (check : String) (points : Int) (description : String)
    (outcome : Session → Answer Value) (s : Session) : Answer Bool :=
  if points < 0 then (.error (negativePoints points), s)
  else
    let (r, s) := outcome s
    match resolve r with
    | .error f => (.error f, s)
    | .ok (passed, complaint) =>
      match award check points description passed s with
      | (.error f, s) => (.error f, s)
      | (.ok (), s) =>
        match complaint with
        | none => (.ok passed, s)
        | some text => (.ok passed, s.comment (description ++ ": " ++ text) none)

/-- What is said about the case that ended an evaluation. -/
def caseText (description : String) (detail : Value) (complaint : Option String) :
    Except Failure String :=
  (detail.written Value.text).map fun text =>
    description ++ ": " ++ text ++ (complaint.map fun t => " (" ++ t ++ ")").getD ""

/-- Evaluates cases, the first of which has the number `n`, up to the first that does not hold,
and comments on that one. -/
def evaluateCases (description : String) (holds : Nat → Value → Session → Answer Value)
    (explain : Value → Session → Answer Value) (broken : Option Failure) :
    Nat → List Value → Session → Answer CaseOutcome
  | n, [], s =>
    match broken with
    | some f => (.error f, s)
    | none => (.ok ⟨true, n⟩, s)
  | n, c :: rest, s =>
    let (r, s) := holds n c s
    match resolve r with
    | .error f => (.error f, s)
    | .ok (true, _) => evaluateCases description holds explain broken (n + 1) rest s
    | .ok (false, complaint) =>
      let (e, s) := explain c s
      match e.bind fun detail => caseText description detail complaint with
      | .error f => (.error f, s)
      | .ok text => (.ok ⟨false, n + 1⟩, s.comment text none)

/-- Awards points if every case holds. -/
def gradeEach (check : String) (points : Int) (description : String) (cases : Cases)
    (holds : Nat → Value → Session → Answer Value) (explain : Value → Session → Answer Value)
    (s : Session) : Answer CaseOutcome :=
  if points < 0 then (.error (negativePoints points), s)
  else
    match evaluateCases description holds explain cases.broken 0 cases.items s with
    | (.error f, s) => (.error f, s)
    | (.ok outcome, s) =>
      match award check points description outcome.passed s with
      | (.error f, s) => (.error f, s)
      | (.ok (), s) => (.ok outcome, s)

/-- Whether a predicate holds for a submission; one that does not parse is commented on. An
ordinary failure of the predicate is commented on too, others are passed on, and so is what
describing an ordinary one raises. -/
def examine (c : Setting) (t : Target) (holds : SourceUnit → Session → Answer Value)
    (s : Session) : Answer Bool :=
  match c.target t with
  | .error f => (.error f, s)
  | .ok u =>
    if u.parsable then
      match holds u s with
      | (.ok v, s) => (.ok v.truthy, s)
      | (.error f, s) =>
        match f.handled with
        | .error g => (.error g, s)
        | .ok text =>
          (.ok false,
            (s.comment ("Check failed: " ++ text) none).comment
              ("Is there a syntax error in your submission? " ++ u.path) none)
    else (.ok false, s.comment ("Could not parse file: " ++ u.path) none)

/-- Runs the script of a check. -/
def play (c : Setting) (check : String) : Script → Session → Answer Value
  | .done v, s => (.ok v, s)
  | .fail f, s => (.error f, s)
  | .note label v next, s => play c check next (s.note ⟨check, label, v⟩)
  | .grading points description outcome next, s =>
    let (r, s) := grade check points description (play c check outcome) s
    play c check (next r) s
  | .gradingEach points description cases predicate explain next, s =>
    let (r, s) := gradeEach check points description cases
      (fun n v => play c check (predicate n v)) (fun v => play c check (explain v)) s
    play c check (next r) s
  | .comment text position next, s => play c check next (s.comment text position)
  | .inspect t predicate next, s =>
    let (r, s) := c.examine t (fun u => play c check (predicate u)) s
    play c check (next r) s
  | .unit name next, s => play c check (next (c.unit name)) s
  | .draw d next, s =>
    let (r, source) := d.run.run s.source
    play c check (next r) { s with source }
  | .policy next, s => play c check (next c.policy) s
termination_by structural script => script

end Setting

end Grader
