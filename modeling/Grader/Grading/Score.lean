import Grader.Failure

/-!
Grades and the score of a run. Points accumulate until the score is settled, once; after that it
does not change any more. A call that is refused leaves the score as it was.
-/

namespace Grader

/-- The outcome of one weighted assertion. -/
structure Grade where
  check : String
  description : String
  awarded : Int
  possible : Int
  passed : Bool := true
  deriving Repr, DecidableEq

/-- The nearest value between two bounds; the lower one wins where they cross. -/
def clamp (value lower upper : Int) : Int := max lower (min upper value)

/-- The grades and deductions of a run. -/
structure Score where
  maximum : Nat
  maximum_pos : 0 < maximum
  grades : List Grade := []
  deduction : Nat := 0
  /-- The final score, once it is settled. -/
  settled : Option Int := none

/-- Why a call on a score is refused. -/
inductive ScoreError where
  | maximum (points : Int)
  | alreadySettled
  | notSettled
  | grade (g : Grade)
  | deduction (points : Int)
  deriving Repr, DecidableEq

def ScoreError.failure : ScoreError → Failure
  | maximum n => .value s!"max_score must be positive: {n}"
  | alreadySettled => ⟨"ScoreStateError", "Score has already been finalized", []⟩
  | notSettled => ⟨"ScoreStateError", "Score has not been finalized yet", []⟩
  | grade g =>
    .value (s!"Invalid grade {g.awarded}/{g.possible} for " ++ Text.Quoted.text g.description)
  | deduction n => .value s!"Deductions must not be negative: {n}"

namespace Score

/-- A score without grades. -/
def ofMaximum (n : Int) : Except ScoreError Score :=
  if h : 0 < n then .ok ⟨n.toNat, by omega, [], 0, none⟩ else .error (.maximum n)

/-- The points awarded so far. -/
def awarded (s : Score) : Int := s.grades.foldr (fun g n => g.awarded + n) 0

/-- The points that could have been awarded so far. -/
def possible (s : Score) : Int := s.grades.foldr (fun g n => g.possible + n) 0

/-- The points awarded less the deductions. -/
def raw (s : Score) : Int := s.awarded - s.deduction

def isSettled (s : Score) : Bool := s.settled.isSome

def addGrade (s : Score) (g : Grade) : Except ScoreError Score :=
  if s.isSettled then .error .alreadySettled
  else if g.possible < 0 ∨ g.awarded < 0 ∨ g.possible < g.awarded then .error (.grade g)
  else .ok { s with grades := s.grades ++ [g] }

def deduct (s : Score) (points : Int) : Except ScoreError Score :=
  if s.isSettled then .error .alreadySettled
  else if points < 0 then .error (.deduction points)
  else .ok { s with deduction := s.deduction + points.toNat }

/-- Settles the score: zero, or the points brought between zero and the maximum. -/
def settle (s : Score) (zero : Bool) : Except ScoreError (Int × Score) :=
  if s.isSettled then .error .alreadySettled
  else
    let final := if zero then 0 else clamp s.raw 0 s.maximum
    .ok (final, { s with settled := some final })

def final (s : Score) : Except ScoreError Int :=
  match s.settled with
  | some n => .ok n
  | none => .error .notSettled

end Score

end Grader
