import Grader.Proofs.Engine.Order
import Grader.Proofs.Engine.Strictness
import Grader.Proofs.Grading.Outcome

/-! Scores under stricter policies and for more submissions. The checks are assumed to record the
same grades; the score then changes through the report of the rules alone, and never upwards. -/

namespace Grader

theorem clamp_mono {a b : Int} (h : a ≤ b) (lower upper : Int) :
    clamp a lower upper ≤ clamp b lower upper := by
  unfold clamp
  omega

namespace Run

def recorded (ts : List Turn) : List Grade := ts.flatMap (·.added.grades)

/-- Two runs of checks of which no body ends the process, and which record the same grades. -/
structure SameGrades (ts us : List Turn) : Prop where
  contained_left : ∀ t ∈ ts, t.isFatal = false
  contained_right : ∀ t ∈ us, t.isFatal = false
  recorded : recorded ts = recorded us

/-- The grade of a failed check awards nothing, so recorded grades make up all points. -/
theorem sum_awarded_recorded (ts : List Turn) :
    ((ts.flatMap Turn.grades).map (·.awarded)).sum = ((recorded ts).map (·.awarded)).sum := by
  unfold recorded
  induction ts with
  | nil => rfl
  | cons t ts ih =>
    have ht : (t.grades.map (·.awarded)).sum = (t.added.grades.map (·.awarded)).sum := by
      unfold Turn.grades
      rw [List.map_append, List.sum_append]
      split <;> simp [failedGrade]
    rw [List.flatMap_cons, List.flatMap_cons, List.map_append, List.map_append, List.sum_append,
      List.sum_append, ih, ht]

theorem raw_resultOf (p : Policy) (r : Report) (ts : List Turn) (text : String) :
    (resultOf p r ts text).raw = ((recorded ts).map (·.awarded)).sum - r.deduction := by
  rw [← sum_awarded_recorded]
  simp only [resultOf, Score.raw, Score.awarded_eq_sum]

/-- Of two reports, the one that costs more and shows cheating where the other does leads to a
result that is not better. -/
theorem resultOf_le {p q : Policy} (h : p.Stricter q) {a b : Report} {ts us : List Turn}
    (hgrades : recorded ts = recorded us) (hdeduction : a.deduction ≤ b.deduction)
    (hcheat : a.integrityViolated = true → b.integrityViolated = true) (text text' : String) :
    (resultOf q b us text').raw ≤ (resultOf p a ts text).raw ∧
      (resultOf q b us text').score ≤ (resultOf p a ts text).score := by
  have hraw : (resultOf q b us text').raw ≤ (resultOf p a ts text).raw := by
    rw [raw_resultOf, raw_resultOf, hgrades]
    omega
  refine ⟨hraw, ?_⟩
  have hnonneg := (finalScore_mem p a (ts.flatMap Turn.grades)).1
  change finalScore q b (us.flatMap Turn.grades) ≤ finalScore p a (ts.flatMap Turn.grades)
  by_cases hq : (b.integrityViolated && q.zeroOnCheat) = true
  · -- The stricter run is set to zero, and no score is below that.
    unfold finalScore at *
    rw [if_pos hq]
    exact hnonneg
  · have hp : ¬(a.integrityViolated && p.zeroOnCheat) = true := by
      intro hzero
      rw [Bool.and_eq_true] at hzero hq
      exact hq ⟨hcheat hzero.1, h.zeroOnCheat hzero.2⟩
    unfold finalScore
    rw [if_neg hq, if_neg hp]
    change clamp (resultOf q b us text').raw 0 q.maxScore ≤
      clamp (resultOf p a ts text).raw 0 p.maxScore
    rw [h.maxScore]
    exact clamp_mono hraw 0 p.maxScore

/-- Two runs, each of which has a result if its summary can be written; that of the second is not
better than that of the first. -/
structure NotBetter (checks : List (Check Script)) (p q : Policy) (us vs : List SourceUnit)
    (fs : Files) (source : Twister) : Prop where
  left : (∃ a, Engine.standard.run checks p us fs source = .ok a) ↔
    Writable p (Engine.standard.report p us) ((turnsOf checks p us fs source).flatMap Turn.grades)
  right : (∃ b, Engine.standard.run checks q vs fs source = .ok b) ↔
    Writable q (Engine.standard.report q vs) ((turnsOf checks q vs fs source).flatMap Turn.grades)
  le : ∀ a b, Engine.standard.run checks p us fs source = .ok a →
    Engine.standard.run checks q vs fs source = .ok b → b.raw ≤ a.raw ∧ b.score ≤ a.score

/-- Two runs that record the same grades, of which the second has every rule violated at least as
often, under a policy that is at least as strict. -/
theorem run_standard_le {checks : List (Check Script)} {p q : Policy} {us vs : List SourceUnit}
    {fs : Files} {source : Twister} (h : p.Stricter q)
    (hcount : ∀ rule, Engine.countOf rule (Engine.standard.violations p us) ≤
      Engine.countOf rule (Engine.standard.violations q vs))
    (hsame : SameGrades (turnsOf checks p us fs source) (turnsOf checks q vs fs source)) :
    NotBetter checks p q us vs fs source where
  left := by
    simp only [run_standard]
    exact exists_withReport_iff.trans (and_iff_right hsame.contained_left)
  right := by
    simp only [run_standard]
    exact exists_withReport_iff.trans (and_iff_right hsame.contained_right)
  le a b ha hb := by
    rw [run_standard] at ha hb
    obtain ⟨-, text, -, rfl⟩ := withReport_eq_ok_iff.mp ha
    obtain ⟨-, text', -, rfl⟩ := withReport_eq_ok_iff.mp hb
    exact resultOf_le h hsame.recorded (Catalogue.standard.deduction_report_mono h hcount)
      (Catalogue.standard.integrityViolated_report_mono hcount) text text'

/-- The points and the score of a run do not rise with the strictness of the policy, nor with more
submissions, as long as the checks record the same grades. -/
theorem score_antitone (checks : List (Check Script)) (p : Policy) (us : List SourceUnit)
    (fs : Files) (source : Twister) :
    (∀ q, p.Stricter q →
      SameGrades (turnsOf checks p us fs source) (turnsOf checks q us fs source) →
      NotBetter checks p q us us fs source) ∧
    (∀ vs, SameGrades (turnsOf checks p us fs source) (turnsOf checks p (us ++ vs) fs source) →
      NotBetter checks p p us (us ++ vs) fs source) := by
  constructor
  · intro q h hsame
    exact run_standard_le h (Catalogue.countOf_violations_mono h us) hsame
  · intro vs hsame
    exact run_standard_le (.refl p) (Catalogue.countOf_violations_append p us vs) hsame

/-- A check that says what the maximal score is and awards points. -/
def sumCheck : Check Script where
  name := "sum"
  description := "adds numbers"
  body := .policy fun p => .comment s!"out of {p.maxScore}" none
    (.grading 30 "sum" (.done (.bool true)) fun _ => .done .none)

/-- Cheating is only flagged under the first policy; the second one is strict, allows no imports and
charges unparsable submissions, and there is one more of these in the last run. -/
theorem score_antitone_of_loopUnits :
    let p : Policy := { zeroOnCheat := false }
    let q : Policy := { Policy.strict with
      lists := Function.update NameList.default .allowedImports [], syntaxErrorPenalty := 20 }
    let run (p : Policy) (units : List SourceUnit) :=
      Engine.standard.run [sumCheck] p units ⟨"/work", []⟩ ⟨#[], 0⟩
    ∃ a b c, run p loopUnits = .ok a ∧ run q loopUnits = .ok b ∧
      run q (loopUnits ++ [⟨"b.py", .rejected "invalid syntax" 1 1⟩]) = .ok c ∧
      b.score ≤ a.score ∧ c.score ≤ b.score := by
  intro p q run
  have hcontained (p : Policy) (us : List SourceUnit) :
      ∀ t ∈ turnsOf [sumCheck] p us ⟨"/work", []⟩ ⟨#[], 0⟩, t.isFatal = false := by
    intro t ht
    rw [List.mem_singleton.mp ht]
    rfl
  have hrecorded (p : Policy) (us : List SourceUnit) :
      recorded (turnsOf [sumCheck] p us ⟨"/work", []⟩ ⟨#[], 0⟩) =
        [⟨"sum", "sum", 30, 30, true⟩] := rfl
  have hsame (p q : Policy) (us vs : List SourceUnit) :
      SameGrades (turnsOf [sumCheck] p us ⟨"/work", []⟩ ⟨#[], 0⟩)
        (turnsOf [sumCheck] q vs ⟨"/work", []⟩ ⟨#[], 0⟩) :=
    ⟨hcontained p us, hcontained q vs, (hrecorded p us).trans (hrecorded q vs).symm⟩
  have hstricter : p.Stricter q := by
    refine ⟨rfl, fun _ _ => rfl, ?_, ?_, by decide, by decide, ?_, id, fun _ => rfl⟩
    · intro r
      exact le_rfl
    · intro r hr
      exact hr
    · intro l hl
      cases l <;> first | exact absurd rfl hl | exact List.Subset.refl _
  -- No sum of points comes near the limit of what can be written.
  have hwritable (p : Policy) (us : List SourceUnit) (hmaximum : Decimal.isWritable p.maxScore)
      (hcost : Decimal.isWritable (Engine.standard.report p us).deduction) :
      Writable p (Engine.standard.report p us)
        ((turnsOf [sumCheck] p us ⟨"/work", []⟩ ⟨#[], 0⟩).flatMap Turn.grades) :=
    ⟨rfl, rfl, hcost, hmaximum⟩
  have hfirst := (score_antitone [sumCheck] p loopUnits ⟨"/work", []⟩ ⟨#[], 0⟩).1 q hstricter
    (hsame ..)
  have hsecond := (score_antitone [sumCheck] q loopUnits ⟨"/work", []⟩ ⟨#[], 0⟩).2
    [⟨"b.py", .rejected "invalid syntax" 1 1⟩] (hsame ..)
  simp only [← Catalogue.engine_standard, Catalogue.deduction_report_eq_sum] at hwritable
  obtain ⟨a, ha⟩ := hfirst.left.mpr (hwritable _ _ (by decide +kernel) (by decide +kernel))
  obtain ⟨b, hb⟩ := hfirst.right.mpr (hwritable _ _ (by decide +kernel) (by decide +kernel))
  obtain ⟨c, hc⟩ := hsecond.right.mpr (hwritable _ _ (by decide +kernel) (by decide +kernel))
  exact ⟨a, b, c, ha, hb, hc, (hfirst.le a b ha hb).2, (hsecond.le b c hb hc).2⟩

end Run

end Grader
