import Grader.Proofs.Engine.Catalogue
import Grader.Proofs.Engine.Counts
import Grader.Proofs.Grading.Turn

/-! How runs end. A run has a result unless the rules fail, the body of a check ends the process or
fails by a failure that cannot be described, or the summary has a number with too many digits. The
result accounts for every check, for every grade and for the report of the rules. -/

namespace Grader

theorem Score.awarded_eq_sum (s : Score) : s.awarded = (s.grades.map (·.awarded)).sum := by
  unfold awarded
  induction s.grades with
  | nil => rfl
  | cons g gs ih => rw [List.foldr_cons, ih, List.map_cons, List.sum_cons]

theorem Score.possible_eq_sum (s : Score) : s.possible = (s.grades.map (·.possible)).sum := by
  unfold possible
  induction s.grades with
  | nil => rfl
  | cons g gs ih => rw [List.foldr_cons, ih, List.map_cons, List.sum_cons]

theorem clamp_mem (value : Int) {lower upper : Int} (h : lower ≤ upper) :
    lower ≤ clamp value lower upper ∧ clamp value lower upper ≤ upper := by
  unfold clamp
  omega

namespace Run

/-- What a result says about the report of the rules and the turns of the checks. -/
structure Accounts (p : Policy) (report : Report) (checks : List (Check Script)) (ts : List Turn)
    (r : Result) : Prop where
  /-- Every check has one turn, and the turns are in the order of the checks. -/
  invoked : ts.map (·.check) = checks
  /-- The grades are those of the turns: what the body recorded, and the grade of a failed check. -/
  grades : r.grades = ts.flatMap fun t =>
    t.added.grades ++ if t.isFailed then [failedGrade t.check] else []
  failed : r.failed = (ts.filter (·.isFailed)).map (·.check.name)
  raw : r.raw = (r.grades.map (·.awarded)).sum - report.deduction
  zeroed : report.cheats ≠ [] → p.zeroOnCheat = true → r.score = 0
  clamped : report.cheats = [] ∨ p.zeroOnCheat = false →
    r.score = max 0 (min (p.maxScore : Int) r.raw)
  nonneg : 0 ≤ r.score
  le_maximum : r.score ≤ p.maxScore
  /-- Nothing else is in the transcript or in the notes but what the turns have left there. -/
  lines : ∃ last, r.lines = reportLines p report ++
    ((ts.zipIdx 1).flatMap fun (t, number) => t.lines number) ++ [last]
  notes : r.notes = ts.flatMap (·.added.notes)
  report_eq : r.report = report

/-- The numbers of the summary of a run can all be written. -/
structure Writable (p : Policy) (report : Report) (grades : List Grade) : Prop where
  awarded : Decimal.isWritable (grades.map (·.awarded)).sum = true
  possible : Decimal.isWritable (grades.map (·.possible)).sum = true
  deduction : Decimal.isWritable report.deduction = true
  maximum : Decimal.isWritable p.maxScore = true

namespace Writable

variable {p : Policy} {report : Report} {xs ys : List Grade}

/-- The sums do not depend on the order of the grades. -/
theorem of_perm (h : xs.Perm ys) (hw : Writable p report xs) : Writable p report ys := by
  obtain ⟨hawarded, hpossible, hdeduction, hmaximum⟩ := hw
  rw [(h.map _).sum_eq] at hawarded hpossible
  exact ⟨hawarded, hpossible, hdeduction, hmaximum⟩

/-- With fewer grades, the sums are not longer, since no points are below zero. -/
theorem of_append (hx : ∀ g ∈ xs, g.InRange) (hy : ∀ g ∈ ys, g.InRange)
    (h : Writable p report (xs ++ ys)) : Writable p report xs := by
  have hsums (f : Grade → Int) (hf : ∀ g : Grade, g.InRange → 0 ≤ f g)
      (hsum : Decimal.isWritable ((xs ++ ys).map f).sum = true) :
      Decimal.isWritable (xs.map f).sum = true := by
    have hnonneg (zs : List Grade) (hz : ∀ g ∈ zs, g.InRange) : 0 ≤ (zs.map f).sum :=
      List.sum_nonneg (List.forall_mem_map.mpr fun g hg => hf g (hz g hg))
    rw [List.map_append, List.sum_append] at hsum
    exact Decimal.isWritable_of_le (hnonneg xs hx)
      (le_add_of_nonneg_right (hnonneg ys hy)) hsum
  exact ⟨hsums _ (fun _ hg => hg.1) h.awarded, hsums _ (fun _ hg => hg.1.trans hg.2) h.possible,
    h.deduction, h.maximum⟩

/-- Where the sum can be written, so can the points of every grade. -/
theorem possible_of_mem (hx : ∀ g ∈ xs, g.InRange) (h : Writable p report xs) {g : Grade}
    (hg : g ∈ xs) : Decimal.isWritable g.possible = true := by
  have hnonneg : ∀ n ∈ xs.map (·.possible), 0 ≤ n :=
    List.forall_mem_map.mpr fun g hg => (hx g hg).1.trans (hx g hg).2
  exact Decimal.isWritable_of_le (hnonneg _ (List.mem_map_of_mem hg))
    (List.single_le_sum hnonneg _ (List.mem_map_of_mem hg)) h.possible

end Writable

/-- How a run with a report of the rules ends, given the turns of its checks. -/
inductive Outcome (p : Policy) (report : Report) (checks : List (Check Script)) (ts : List Turn) :
    Except Failure Result → Prop
  /-- The body of a check has let a failure escape that nothing contains. -/
  | ended (t : Turn) (f : Failure) (mem : t ∈ ts) (answer : t.answer = .error f)
      (fatal : f.reach = .fatal) : Outcome p report checks ts (.error f)
  /-- The body of a check has failed, and describing its failure has raised another one. -/
  | undescribed (t : Turn) (f g : Failure) (mem : t ∈ ts) (answer : t.answer = .error f)
      (contained : f.reach ≠ .fatal) (message : f.message = .error g) :
      Outcome p report checks ts (.error g)
  /-- All failures of bodies are described, but the summary has a number with too many digits. -/
  | unwritten (contained : ∀ t ∈ ts, t.isFatal = false)
      (long : ¬Writable p report (ts.flatMap Turn.grades)) :
      Outcome p report checks ts (.error Decimal.tooLong)
  /-- There is a result. -/
  | completed (r : Result) (contained : ∀ t ∈ ts, t.isFatal = false)
      (writable : Writable p report r.grades) (accounts : Accounts p report checks ts r) :
      Outcome p report checks ts (.ok r)

theorem finalScore_mem (p : Policy) (r : Report) (grades : List Grade) :
    0 ≤ finalScore p r grades ∧ finalScore p r grades ≤ p.maxScore := by
  unfold finalScore
  split
  · omega
  · exact clamp_mem _ (by omega)

theorem costText_eq_ok {r : Report} (h : Decimal.isWritable r.deduction = true) :
    ∃ text, costText r = .ok text := by
  unfold costText
  split
  · exact ⟨_, rfl⟩
  · rw [Decimal.spelled_eq_ok_iff.mpr ⟨h, rfl⟩]
    exact ⟨_, rfl⟩

theorem isWritable_deduction_of_costText {r : Report} {text : String} (h : costText r = .ok text) :
    Decimal.isWritable r.deduction = true := by
  unfold costText at h
  split at h
  · rename_i hzero
    rw [hzero]
    exact Decimal.isWritable_zero
  · obtain ⟨_, hspelled, -⟩ := Traversal.map_eq_ok_iff.mp h
    exact (Decimal.spelled_eq_ok_iff.mp hspelled).1

/-- The summary of a run is written exactly if all its numbers can be. -/
theorem summaryOf_eq_ok_iff {p : Policy} {r : Report} {ts : List Turn} :
    (∃ text, summaryOf p r ts = .ok text) ↔ Writable p r (ts.flatMap Turn.grades) := by
  unfold summaryOf summary
  simp only [Traversal.bind_eq_ok_iff, Decimal.spelled_eq_ok_iff, Score.awarded_eq_sum,
    Score.possible_eq_sum]
  constructor
  · rintro ⟨_, _, ⟨hawarded, -⟩, _, ⟨hpossible, -⟩, _, hcost, _, -, _, ⟨hmaximum, -⟩, -⟩
    exact ⟨hawarded, hpossible, isWritable_deduction_of_costText hcost, hmaximum⟩
  · rintro ⟨hawarded, hpossible, hdeduction, hmaximum⟩
    obtain ⟨cost, hcost⟩ := costText_eq_ok hdeduction
    -- The final score is between zero and the maximum, and not longer than that.
    have hfinal := finalScore_mem p r (ts.flatMap Turn.grades)
    exact ⟨_, _, ⟨hawarded, rfl⟩, _, ⟨hpossible, rfl⟩, cost, hcost, _,
      ⟨Decimal.isWritable_of_le hfinal.1 hfinal.2 hmaximum, rfl⟩, _, ⟨hmaximum, rfl⟩, rfl⟩

theorem costText_eq_error {r : Report} {f : Failure} (h : costText r = .error f) :
    f = Decimal.tooLong := by
  unfold costText at h
  split at h
  · cases h
  · exact (Decimal.spelled_eq_error_iff.mp (Traversal.map_eq_error_iff.mp h)).2

theorem summaryOf_eq_error {p : Policy} {r : Report} {ts : List Turn} {f : Failure}
    (h : summaryOf p r ts = .error f) : f = Decimal.tooLong := by
  unfold summaryOf summary at h
  -- Whichever of the numbers is the first to be refused, the failure is the same.
  rcases Traversal.bind_eq_error_iff.mp h with h | ⟨_, -, h⟩
  · exact (Decimal.spelled_eq_error_iff.mp h).2
  rcases Traversal.bind_eq_error_iff.mp h with h | ⟨_, -, h⟩
  · exact (Decimal.spelled_eq_error_iff.mp h).2
  rcases Traversal.bind_eq_error_iff.mp h with h | ⟨_, -, h⟩
  · exact costText_eq_error h
  rcases Traversal.bind_eq_error_iff.mp h with h | ⟨_, -, h⟩
  · exact (Decimal.spelled_eq_error_iff.mp h).2
  rcases Traversal.bind_eq_error_iff.mp h with h | ⟨_, -, h⟩
  · exact (Decimal.spelled_eq_error_iff.mp h).2
  · cases h

/-- A run has a result exactly if it ends at no turn and its summary can be written. -/
theorem exists_withReport_iff {checks : List (Check Script)} {p : Policy}
    {units : List SourceUnit} {fs : Files} {report : Report} {source : Twister} :
    (∃ r, withReport checks p units fs report source = .ok r) ↔
      (∀ t ∈ turnsOf checks p units fs source, t.isFatal = false) ∧
        Writable p report ((turnsOf checks p units fs source).flatMap Turn.grades) := by
  rw [← summaryOf_eq_ok_iff]
  constructor
  · rintro ⟨r, hr⟩
    obtain ⟨hcontained, text, htext, -⟩ := withReport_eq_ok_iff.mp hr
    exact ⟨hcontained, text, htext⟩
  · rintro ⟨hcontained, text, htext⟩
    exact ⟨_, withReport_eq_ok_iff.mpr ⟨hcontained, text, htext, rfl⟩⟩

theorem resultOf_accounts (p : Policy) (report : Report) {checks : List (Check Script)}
    {ts : List Turn} (h : ts.map (·.check) = checks) (text : String) :
    Accounts p report checks ts (resultOf p report ts text) := by
  have hraw : (resultOf p report ts text).raw =
      ((ts.flatMap Turn.grades).map (·.awarded)).sum - report.deduction := by
    simp only [resultOf, Score.raw, Score.awarded_eq_sum]
  have hbounds := finalScore_mem p report (ts.flatMap Turn.grades)
  refine ⟨h, rfl, rfl, hraw, ?_, ?_, hbounds.1, hbounds.2, ⟨_, rfl⟩, rfl, rfl⟩
  · intro hcheats hzero
    have hi := report.integrityViolated_iff.mpr hcheats
    simp only [resultOf, finalScore, hi, hzero, Bool.and_self, ↓reduceIte]
  · intro hor
    have hi : (report.integrityViolated && p.zeroOnCheat) = false := by
      rcases hor with hcheats | hzero
      · have hn : ¬report.integrityViolated = true := by
          rw [report.integrityViolated_iff]
          exact fun hne => hne hcheats
        rw [Bool.not_eq_true] at hn
        rw [hn, Bool.false_and]
      · rw [hzero, Bool.and_false]
    simp only [resultOf, finalScore, hi, Bool.false_eq_true, ↓reduceIte]
    rfl

/-- What escapes at a turn is one of the two ends that a run comes to there. -/
theorem outcome_of_escaped {p : Policy} {report : Report} {checks : List (Check Script)}
    {ts : List Turn} {t : Turn} (ht : t ∈ ts) {g : Failure} (hg : t.escaped = some g) :
    Outcome p report checks ts (.error g) := by
  obtain ⟨f, ha, hf⟩ := Turn.escaped_eq_some_iff.mp hg
  rcases Failure.contained_eq_error_iff.mp hf with ⟨hfatal, rfl⟩ | ⟨hreach, hmessage⟩
  · exact .ended t g ht ha hfatal
  · exact .undescribed t f g ht ha hreach hmessage

/-- A run with a report of the rules ends with a result, unless it ends at a turn or its summary
cannot be written. -/
theorem withReport_outcome (checks : List (Check Script)) (p : Policy) (units : List SourceUnit)
    (fs : Files) (report : Report) (source : Twister) :
    Outcome p report checks (turnsOf checks p units fs source)
      (withReport checks p units fs report source) := by
  by_cases h : ∀ t ∈ turnsOf checks p units fs source, t.isFatal = false
  · rw [withReport_of_contained checks p units fs report source h]
    have hchecks := Setting.map_check_turns _ source checks h
    cases hsummary : summaryOf p report (turnsOf checks p units fs source) with
    | ok text =>
      exact .completed _ h (summaryOf_eq_ok_iff.mp ⟨text, hsummary⟩)
        (resultOf_accounts p report hchecks text)
    | error f =>
      obtain rfl := summaryOf_eq_error hsummary
      refine .unwritten h fun hwritable => ?_
      obtain ⟨text, htext⟩ := summaryOf_eq_ok_iff.mpr hwritable
      rw [hsummary] at htext
      cases htext
  · -- The run ends at some turn, and no other turn comes after that.
    push Not at h
    obtain ⟨t, ht, hfatal⟩ := h
    obtain ⟨g, hg⟩ := Turn.isFatal_iff.mp (Bool.of_not_eq_false hfatal)
    rw [withReport_of_escaped checks p units fs report source ht hg]
    exact outcome_of_escaped ht hg

/-- With the default rules, a run has the report of the rules in any case. -/
theorem run_standard (checks : List (Check Script)) (p : Policy) (us : List SourceUnit)
    (fs : Files) (source : Twister) : Engine.standard.run checks p us fs source =
      withReport checks p us fs (Engine.standard.report p us) source := by
  unfold Engine.run
  rw [Engine.evaluate_standard]
  rfl

/-- With any report, and so with the one that the engine gives, a run has a result that accounts for
every check, unless the body of a check ends the process or fails by a failure that cannot be
described, or a number of the summary cannot be written. -/
theorem engine_run_outcome (e : Engine) (checks : List (Check Script)) (p : Policy)
    (units : List SourceUnit) (fs : Files) (source : Twister) :
    (∀ report, Outcome p report checks (turnsOf checks p units fs source)
      (withReport checks p units fs report source)) ∧
    match e.evaluate p units with
    | .error f => e.run checks p units fs source = .error f
    | .ok report => Outcome p report checks (turnsOf checks p units fs source)
        (e.run checks p units fs source) := by
  refine ⟨fun report => withReport_outcome checks p units fs report source, ?_⟩
  unfold Engine.run
  cases e.evaluate p units with
  | error f => rfl
  | ok report => exact withReport_outcome checks p units fs report source

/-- A run ends without a result when a check fails by an ordinary failure that has no text, and,
even without any check, under a policy whose maximal score has too many digits to be written. -/
theorem engine_run_unfinished :
    let check : Check Script := ⟨"a", "fails", .fail Failure.unworded⟩
    let p : Policy := { maxScore := 10 ^ 4300, maxScore_pos := Nat.pow_pos (by decide) }
    let fs : Files := ⟨"/work", []⟩
    let source : Twister := ⟨#[], 0⟩
    Failure.unworded.reach = .ordinary ∧
      Engine.standard.run [check] .standard [] fs source =
        .error (.type "__str__ returned non-string (type int)") ∧
      Engine.standard.run [] p [] fs source = .error Decimal.tooLong := by
  intro check p fs source
  refine ⟨rfl, ?_, ?_⟩
  · rw [run_standard]
    exact withReport_of_escaped [check] .standard [] fs _ source List.mem_cons_self rfl
  · -- Without checks there is no turn at which the run could end, but there is the maximum.
    rw [run_standard]
    have hlong : Decimal.isWritable (p.maxScore : Int) = false := by decide +kernel
    have hturns : turnsOf [] p [] fs source = [] := rfl
    have houtcome := withReport_outcome [] p [] fs (Engine.standard.report p []) source
    rw [hturns] at houtcome
    cases hresult : withReport [] p [] fs (Engine.standard.report p []) source with
    | ok r =>
      rw [hresult] at houtcome
      cases houtcome with
      | completed _ _ writable _ =>
        rw [writable.maximum] at hlong
        cases hlong
    | error f =>
      rw [hresult] at houtcome
      cases houtcome with
      | ended _ _ mem _ _ => cases mem
      | undescribed _ _ _ mem _ _ _ => cases mem
      | unwritten _ _ => rfl

end Run

end Grader
