import Grader.Proofs.Engine.Catalogue
import Grader.Proofs.Grading.Calls
import Grader.Proofs.Grading.Kept

/-! Transcripts. The lines of a completed run are those of the report, one block for each check and
the summary, in the order of a regular expression over the kinds of lines; behind the report, the
lines about points agree one by one with the grades of the result. -/

namespace Grader

namespace LineKind

open RegularExpression

/-- The order of the kinds of lines that a check adds. -/
def checkBlock : RegularExpression LineKind :=
  char check * (char grade + char comment).star * (1 + char diagnostic)

/-- The order of the kinds of lines in a transcript. -/
def transcript : RegularExpression LineKind :=
  (1 + char integrity) * (char violation).star * (char diagnostic).star * checkBlock.star *
    char summary

theorem mem_star {P : RegularExpression LineKind} {l : List (List LineKind)}
    (h : ∀ ks ∈ l, ks ∈ P.matches') : l.flatten ∈ P.star.matches' := by
  rw [matches'_star]
  exact Language.join_mem_kstar h

theorem mem_star_of_forall {P : RegularExpression LineKind} {ks : List LineKind}
    (h : ∀ k ∈ ks, [k] ∈ P.matches') : ks ∈ P.star.matches' := by
  have hflatten := mem_star (l := ks.map fun k => [k]) (P := P) (by simpa using h)
  rwa [← List.flatMap_def, List.flatMap_singleton'] at hflatten

theorem append_mem_mul {P Q : RegularExpression LineKind} {ks ls : List LineKind}
    (hk : ks ∈ P.matches') (hl : ls ∈ Q.matches') : ks ++ ls ∈ (P * Q).matches' := by
  rw [matches'_mul]
  exact Language.append_mem_mul hk hl

theorem nil_mem_optional (k : LineKind) : [] ∈ (1 + char k).matches' := by
  rw [matches'_add, matches'_epsilon]
  exact .inl rfl

theorem singleton_mem_optional (k : LineKind) : [k] ∈ (1 + char k).matches' := by
  rw [matches'_add, matches'_char]
  exact .inr rfl

end LineKind

namespace Line

/-- The line stands for the grade and says the points that it awards. -/
inductive Reports : Line → Grade → Prop
  | full (g : Grade) (passed : g.passed = true) (all : g.awarded = g.possible) :
    Reports { kind := .grade, text := s!"[OK] {g.description} ({g.awarded} points)" } g
  | none (g : Grade) (failed : g.passed = false) (nothing : g.awarded = 0) :
    Reports { kind := .grade
              text := s!"[FAILED] {g.description} ({g.awarded} of {g.possible} points)" } g
  | raised (check : Check Script) (description : String) :
    Reports (Run.failedLine check description) (Run.failedGrade check)

/-- The line is one of those that the body of a check may add. -/
def IsOfBody (l : Line) : Prop := l.kind = .grade ∨ l.kind = .comment

/-- The line is about points. -/
def isGraded (l : Line) : Bool := l.kind == .grade || l.kind == .diagnostic

theorem reports_gradeLine (check : String) (points : Int) (description : String) (passed : Bool) :
    Reports (Setting.gradeLine (toString points) description passed)
      ⟨check, description, if passed then points else 0, points, passed⟩ := by
  cases passed with
  | true => exact .full ⟨check, description, points, points, true⟩ rfl rfl
  | false =>
    have htext : s!"[FAILED] {description} (0 of {toString points} points)" =
        s!"[FAILED] {description} ({(0 : Int)} of {points} points)" := by
      simp only [String.append_assoc]
      rfl
    simp only [Setting.gradeLine, Bool.false_eq_true, ↓reduceIte, htext]
    exact .none ⟨check, description, 0, points, false⟩ rfl rfl

end Line

/-- Lines and grades of which every line is a grade line or a comment, and the grade lines stand for
the grades whose points can be written, one by one. -/
structure Logged (lines : List Line) (grades : List Grade) : Prop where
  ofBody : ∀ l ∈ lines, l.IsOfBody
  reports : List.Forall₂ Line.Reports (lines.filter (·.isGraded))
    (grades.filter fun g => Decimal.isWritable g.possible)

namespace Logged

theorem comment {lines : List Line} {grades : List Grade} (h : Logged lines grades) (text : String)
    (position : Option Position) :
    Logged (lines ++ [{ kind := .comment, text, position }]) grades := by
  refine ⟨?_, ?_⟩
  · intro l hl
    rcases List.mem_append.mp hl with hl | hl
    · exact h.ofBody l hl
    · rw [List.mem_singleton.mp hl]
      exact .inr rfl
  · rw [List.filter_append]
    exact (List.append_nil _).symm ▸ h.reports

theorem grade {lines : List Line} {grades : List Grade} (h : Logged lines grades) {l : Line}
    {g : Grade} (hl : l.kind = .grade) (hg : l.Reports g)
    (hwritable : Decimal.isWritable g.possible = true) : Logged (lines ++ [l]) (grades ++ [g]) := by
  refine ⟨?_, ?_⟩
  · intro l' hl'
    rcases List.mem_append.mp hl' with hl' | hl'
    · exact h.ofBody l' hl'
    · rw [List.mem_singleton.mp hl']
      exact .inl hl
  · have hgraded : l.isGraded = true := by simp [Line.isGraded, hl]
    have hkept : [g].filter (fun g => Decimal.isWritable g.possible) = [g] :=
      List.filter_cons_of_pos hwritable
    rw [List.filter_append, List.filter_append, List.filter_cons_of_pos hgraded, hkept]
    exact List.rel_append h.reports (.cons hg .nil)

theorem unwritten {lines : List Line} {grades : List Grade} (h : Logged lines grades) {g : Grade}
    (hlong : Decimal.isWritable g.possible = false) : Logged lines (grades ++ [g]) := by
  refine ⟨h.ofBody, ?_⟩
  rw [List.filter_append, List.filter_cons_of_neg (by rw [hlong]; decide), List.filter_nil,
    List.append_nil]
  exact h.reports

/-- A grade and its line are added together, unless the points of the grade cannot be written. -/
theorem kept (check : String) :
    Session.Kept check fun s => Logged s.lines s.score.grades where
  comment s text position h := h.comment text position
  note _ _ h := h
  draw _ _ h := h
  award s points description passed _ hwritable h :=
    h.grade (by cases passed <;> rfl) (Line.reports_gradeLine check points description passed)
      hwritable
  unwritten s g _ hlong h := h.unwritten hlong

end Logged

/-- The body of a check adds grades with their lines, and comments. -/
theorem Setting.turn_logged (c : Setting) (check : Check Script) (source : Twister) :
    Logged (c.turn check source).added.lines (c.turn check source).added.grades := by
  have hfresh : Logged (Session.fresh source).lines (Session.fresh source).score.grades :=
    ⟨fun l hl => absurd hl List.not_mem_nil, .nil⟩
  exact c.play_keeps (Logged.kept check.name) check.body (Session.fresh source) hfresh

theorem Setting.logged_of_mem_turns (c : Setting) (source : Twister) (checks : List (Check Script))
    {t : Turn} (ht : t ∈ c.turns source checks) : Logged t.added.lines t.added.grades := by
  obtain ⟨check, -, source', rfl⟩ := c.exists_of_mem_turns source checks ht
  exact c.turn_logged check source'

namespace Turn

/-- The lines are those of the turn of a check with a number: its header, grades and comments, and a
diagnostic at the end if its body raised. -/
inductive IsBlock : Turn × Nat → List Line → Prop
  | returned {t : Turn} {n : Nat} {v : Value} {body : List Line} (answer : t.answer = .ok v)
    (ofBody : ∀ l ∈ body, l.IsOfBody) : IsBlock (t, n) (Run.checkLine n t.check :: body)
  | raised {t : Turn} {n : Nat} {f : Failure} {description : String} {body : List Line}
    (answer : t.answer = .error f) (described : f.contained = .ok description)
    (ofBody : ∀ l ∈ body, l.IsOfBody) :
    IsBlock (t, n) (Run.checkLine n t.check :: body ++ [Run.failedLine t.check description])

def endsInDiagnostic (ls : List Line) : Bool := ls.getLast?.any (·.kind == .diagnostic)

/-- A turn at which the run does not end, and what its body has added. -/
structure IsLogged (t : Turn) : Prop where
  contained : t.isFatal = false
  logged : Logged t.added.lines t.added.grades

variable {t : Turn} (h : t.IsLogged)

include h

theorem isBlock_lines (n : Nat) : IsBlock (t, n) (t.lines n) := by
  unfold lines complaint
  cases ha : t.answer with
  | ok v =>
    dsimp only
    rw [List.append_nil]
    exact .returned ha h.logged.ofBody
  | error f =>
    obtain ⟨description, hf⟩ := contained_of_isFatal h.contained ha
    simp only [hf]
    exact .raised ha hf h.logged.ofBody

theorem reports_lines (n : Nat) :
    List.Forall₂ Line.Reports ((t.lines n).filter (·.isGraded))
      (t.grades.filter fun g => Decimal.isWritable g.possible) := by
  unfold lines complaint grades isFailed
  rw [List.cons_append, List.filter_cons_of_neg Bool.false_ne_true, List.filter_append,
    List.filter_append]
  refine List.rel_append h.logged.reports ?_
  cases ha : t.answer with
  | ok v => exact .nil
  | error f =>
    obtain ⟨description, hf⟩ := contained_of_isFatal h.contained ha
    simp only [hf]
    exact .cons (.raised t.check description) .nil

end Turn

namespace Turn

open RegularExpression LineKind in
theorem IsBlock.kinds {x : Turn × Nat} {ls : List Line} (h : IsBlock x ls) :
    ls.map (·.kind) ∈ checkBlock.matches' := by
  have hbody {body : List Line} (hb : ∀ l ∈ body, l.IsOfBody) :
      body.map (·.kind) ∈ (char LineKind.grade + char LineKind.comment).star.matches' := by
    refine mem_star_of_forall ?_
    simp only [List.mem_map, forall_exists_index, and_imp]
    rintro k l hl rfl
    rw [matches'_add, matches'_char, matches'_char]
    exact (hb l hl).imp (congrArg fun k => [k]) (congrArg fun k => [k])
  have hhead (n : Nat) (t : Turn) {body : List Line} (hb : ∀ l ∈ body, l.IsOfBody) :
      (Run.checkLine n t.check :: body).map (·.kind) ∈
        (char LineKind.check * (char LineKind.grade + char LineKind.comment).star).matches' :=
    append_mem_mul (show [LineKind.check] ∈ (char LineKind.check).matches' from rfl) (hbody hb)
  cases h with
  | returned answer hb =>
    rw [← List.append_nil (List.map _ _)]
    exact append_mem_mul (hhead _ _ hb) (nil_mem_optional .diagnostic)
  | raised answer hf hb =>
    rw [List.map_append]
    exact append_mem_mul (hhead _ _ hb) (singleton_mem_optional .diagnostic)

theorem IsBlock.kind_ne_integrity {x : Turn × Nat} {ls : List Line} (h : IsBlock x ls) {l : Line}
    (hl : l ∈ ls) : ¬l.kind = .integrity := by
  have hhead (n : Nat) (t : Turn) {body : List Line} (hb : ∀ l ∈ body, l.IsOfBody)
      (hl : l ∈ Run.checkLine n t.check :: body) : ¬l.kind = .integrity := by
    rcases List.mem_cons.mp hl with rfl | hl
    · exact LineKind.noConfusion
    · rcases hb l hl with hk | hk <;> simp [hk]
  cases h with
  | returned answer hb => exact hhead _ _ hb hl
  | raised answer hf hb =>
    rcases List.mem_append.mp hl with hl | hl
    · exact hhead _ _ hb hl
    · rw [List.mem_singleton.mp hl]
      exact LineKind.noConfusion

/-- A block has one header, its own. -/
theorem IsBlock.heads {t : Turn} {n : Nat} {ls : List Line} (h : IsBlock (t, n) ls) :
    ls.filter (·.kind == .check) = [Run.checkLine n t.check] := by
  have hbody {body : List Line} (hb : ∀ l ∈ body, l.IsOfBody) :
      body.filter (·.kind == .check) = [] := by
    refine List.filter_eq_nil_iff.mpr fun l hl => ?_
    rcases hb l hl with hk | hk <;> simp [hk]
  cases h with
  | returned answer hb => rw [List.filter_cons_of_pos rfl, hbody hb]
  | raised answer hf hb =>
    rw [List.filter_append, List.filter_cons_of_pos rfl, hbody hb]
    rfl

/-- A block ends in a diagnostic exactly if the body raised. -/
theorem IsBlock.endsInDiagnostic_eq {t : Turn} {n : Nat} {ls : List Line} (h : IsBlock (t, n) ls) :
    endsInDiagnostic ls = t.isFailed := by
  cases h with
  | @returned _ _ v body answer hb =>
    have hlast : ∀ l ∈ Run.checkLine n t.check :: body, (l.kind == .diagnostic) = false := by
      rintro l (_ | ⟨_, hl⟩)
      · rfl
      · rcases hb l hl with hk | hk <;> rw [hk] <;> rfl
    have hmem := List.getLast_mem (List.cons_ne_nil (Run.checkLine n t.check) body)
    simp only [endsInDiagnostic, isFailed, answer, List.getLast?_eq_some_getLast
      (List.cons_ne_nil (Run.checkLine n t.check) body), Option.any_some, hlast _ hmem]
  | raised answer hf hb =>
    simp only [endsInDiagnostic, isFailed, answer, List.getLast?_append, List.getLast?_singleton]
    rfl

/-- The blocks of turns, the first of which has the number `n`. -/
def blockLines (n : Nat) (ts : List Turn) : List (List Line) :=
  (ts.zipIdx n).map fun (t, number) => t.lines number

theorem blockLines_cons (n : Nat) (t : Turn) (ts : List Turn) :
    blockLines n (t :: ts) = t.lines n :: blockLines (n + 1) ts := by
  rw [blockLines, List.zipIdx_cons, List.map_cons, blockLines]

variable {ts : List Turn} (h : ∀ t ∈ ts, t.IsLogged)

include h

theorem isBlock_blockLines (n : Nat) : List.Forall₂ IsBlock (ts.zipIdx n) (blockLines n ts) := by
  unfold blockLines
  rw [List.forall₂_map_right_iff, List.forall₂_same]
  intro x hx
  exact isBlock_lines (h x.1 (List.fst_mem_of_mem_zipIdx hx)) x.2

theorem heads_blockLines (n : Nat) : (blockLines n ts).flatten.filter (·.kind == .check) =
    ((ts.map (·.check)).zipIdx n).map fun (c, number) => Run.checkLine number c := by
  induction ts generalizing n with
  | nil => rfl
  | cons t ts ih =>
    obtain ⟨ht, hts⟩ := List.forall_mem_cons.mp h
    rw [blockLines_cons, List.flatten_cons, List.filter_append, (isBlock_lines ht n).heads,
      ih hts (n + 1)]
    rfl

theorem reports_blockLines (n : Nat) : List.Forall₂ Line.Reports
    ((blockLines n ts).flatten.filter (·.isGraded))
    ((ts.flatMap grades).filter fun g => Decimal.isWritable g.possible) := by
  induction ts generalizing n with
  | nil => exact .nil
  | cons t ts ih =>
    obtain ⟨ht, hts⟩ := List.forall_mem_cons.mp h
    rw [blockLines_cons, List.flatten_cons, List.filter_append, List.flatMap_cons,
      List.filter_append]
    exact List.rel_append (reports_lines ht n) (ih hts (n + 1))

theorem failedNames_eq_blockLines (n : Nat) : failedNames ts =
    (((ts.map (·.check)).zip (blockLines n ts)).filter fun x => endsInDiagnostic x.2).map
      (·.1.name) := by
  induction ts generalizing n with
  | nil => rfl
  | cons t ts ih =>
    obtain ⟨ht, hts⟩ := List.forall_mem_cons.mp h
    rw [failedNames_cons, ih hts (n + 1), blockLines_cons, List.map_cons, List.zip_cons_cons]
    simp only [failedNames, List.filter_cons, (isBlock_lines ht n).endsInDiagnostic_eq,
      List.filter_nil]
    cases t.isFailed <;> rfl

end Turn

namespace Run

/-- What the transcript of a result says about the report of the rules and the turns of the
checks. -/
structure Transcript (report : Report) (checks : List (Check Script)) (ts : List Turn)
    (r : Result) : Prop where
  shape : r.lines.map (·.kind) ∈ LineKind.transcript.matches'
  integrity : (∃ l ∈ r.lines, l.kind = .integrity) ↔ report.cheats ≠ []
  /-- The checks are numbered in order, and each has one header. -/
  heads : r.lines.filter (·.kind == .check) = (checks.zipIdx 1).map fun (c, number) =>
    { kind := .check, text := s!"Check {number}: {c.description}" }
  /-- Every check has one turn, and the turns are in the order of the checks. -/
  invoked : ts.map (·.check) = checks
  parts : ∃ (front : List Line) (blocks : List (List Line)) (last : Line),
    r.lines = front ++ report.violations.map violationLine ++
      report.diagnostics.map diagnosticLine ++ blocks.flatten ++ [last] ∧
    (∀ l ∈ front, l.kind = .integrity) ∧ last.kind = .summary ∧
    List.Forall₂ Turn.IsBlock (ts.zipIdx 1) blocks ∧
    r.failed = ((checks.zip blocks).filter fun x => Turn.endsInDiagnostic x.2).map (·.1.name) ∧
    List.Forall₂ Line.Reports (blocks.flatten.filter (·.isGraded)) r.grades

theorem integrityLines_eq_nil_iff (p : Policy) (report : Report) :
    integrityLines p report = [] ↔ report.cheats = [] := by
  have hviolated := report.integrityViolated_iff
  unfold integrityLines
  split
  · rename_i h
    simpa using hviolated.mp h
  · rename_i h
    simpa [h] using hviolated

theorem kinds_integrityLines (p : Policy) (report : Report) :
    ∀ l ∈ integrityLines p report, l.kind = .integrity := by
  intro l hl
  unfold integrityLines at hl
  split at hl
  · rw [List.mem_singleton.mp hl]
  · exact absurd hl List.not_mem_nil

open RegularExpression LineKind in
theorem kinds_reportLines (p : Policy) (report : Report) : (reportLines p report).map (·.kind) ∈
    ((1 + char LineKind.integrity) * (char LineKind.violation).star *
      (char LineKind.diagnostic).star).matches' := by
  unfold reportLines
  rw [List.map_append, List.map_append, List.map_map, List.map_map]
  refine append_mem_mul (append_mem_mul ?_ ?_) ?_
  · unfold integrityLines
    split
    · exact singleton_mem_optional .integrity
    · exact nil_mem_optional .integrity
  · refine mem_star_of_forall fun k hk => ?_
    obtain ⟨v, -, rfl⟩ := List.mem_map.mp hk
    rfl
  · refine mem_star_of_forall fun k hk => ?_
    obtain ⟨d, -, rfl⟩ := List.mem_map.mp hk
    rfl

theorem kind_of_mem_reportLines {p : Policy} {report : Report} {l : Line}
    (h : l ∈ reportLines p report) :
    l ∈ integrityLines p report ∨ l.kind = .violation ∨ l.kind = .diagnostic := by
  simp only [reportLines, List.mem_append, List.mem_map] at h
  rcases h with (h | ⟨v, -, rfl⟩) | ⟨d, -, rfl⟩
  · exact .inl h
  · exact .inr (.inl rfl)
  · exact .inr (.inr rfl)

theorem lines_resultOf (p : Policy) (report : Report) (ts : List Turn) (text : String) :
    (resultOf p report ts text).lines =
      reportLines p report ++ (Turn.blockLines 1 ts).flatten ++ [{ kind := .summary, text }] := by
  unfold Turn.blockLines
  rw [← List.flatMap_def]
  rfl

/-- Only the report of the rules leads to a line about integrity, and it does so for cheating. -/
theorem exists_integrity_iff (p : Policy) (report : Report) {ts : List Turn}
    (h : ∀ t ∈ ts, t.IsLogged) (text : String) :
    (∃ l ∈ (resultOf p report ts text).lines, l.kind = .integrity) ↔ report.cheats ≠ [] := by
  -- Lines of the other parts are of other kinds, so only the first part decides.
  have hno : ∀ l ∈ (Turn.blockLines 1 ts).flatten, ¬l.kind = .integrity := by
    intro l hl
    obtain ⟨ls, hls, hl⟩ := List.mem_flatten.mp hl
    obtain ⟨x, hx, rfl⟩ := List.mem_map.mp hls
    exact (Turn.isBlock_lines (h x.1 (List.fst_mem_of_mem_zipIdx hx)) x.2).kind_ne_integrity hl
  have hcheats : integrityLines p report ≠ [] ↔ report.cheats ≠ [] :=
    (integrityLines_eq_nil_iff p report).not
  rw [← hcheats, lines_resultOf]
  constructor
  · rintro ⟨l, hl, hk⟩
    rw [List.mem_append, List.mem_append, List.mem_singleton] at hl
    rcases hl with (hl | hl) | rfl
    · rcases kind_of_mem_reportLines hl with h | h | h
      · exact List.ne_nil_of_mem h
      · exact absurd (hk.symm.trans h) (by decide)
      · exact absurd (hk.symm.trans h) (by decide)
    · exact absurd hk (hno l hl)
    · cases hk
  · intro hne
    obtain ⟨l, hl⟩ := List.exists_mem_of_ne_nil _ hne
    refine ⟨l, ?_, kinds_integrityLines p report l hl⟩
    rw [reportLines, List.append_assoc, List.append_assoc, List.append_assoc]
    exact List.mem_append_left _ hl

/-- The result of turns has a transcript that agrees with it, if the points of all grades can be
written. -/
theorem transcript_resultOf (p : Policy) (report : Report) {checks : List (Check Script)}
    {ts : List Turn} (hchecks : ts.map (·.check) = checks) (h : ∀ t ∈ ts, t.IsLogged)
    (hwritable : ∀ g ∈ ts.flatMap Turn.grades, Decimal.isWritable g.possible = true)
    (text : String) : Transcript report checks ts (resultOf p report ts text) := by
  have hlines := lines_resultOf p report ts text
  have hkinds : ∀ ls ∈ Turn.blockLines 1 ts, ls.map (·.kind) ∈ LineKind.checkBlock.matches' := by
    intro ls hls
    obtain ⟨x, hx, rfl⟩ := List.mem_map.mp hls
    exact (Turn.isBlock_lines (h x.1 (List.fst_mem_of_mem_zipIdx hx)) x.2).kinds
  have hheads : (reportLines p report).filter (·.kind == .check) = [] := by
    refine List.filter_eq_nil_iff.mpr fun l hl => ?_
    rcases kind_of_mem_reportLines hl with h | h | h
    · simp [kinds_integrityLines p report l h]
    · simp [h]
    · simp [h]
  refine ⟨?_, exists_integrity_iff p report h text, ?_, hchecks, ?_⟩
  · rw [hlines, List.map_append, List.map_append, List.map_flatten]
    refine LineKind.append_mem_mul (LineKind.append_mem_mul (kinds_reportLines p report) ?_) ?_
    · refine LineKind.mem_star ?_
      simpa using hkinds
    · rfl
  · rw [hlines, List.filter_append, List.filter_append, hheads, Turn.heads_blockLines h 1,
      hchecks, List.filter_cons_of_neg (by simp)]
    simp [checkLine]
  · have hreports := Turn.reports_blockLines h 1
    rw [List.filter_eq_self.mpr hwritable] at hreports
    refine ⟨integrityLines p report, Turn.blockLines 1 ts, _, hlines,
      kinds_integrityLines p report, rfl, Turn.isBlock_blockLines h 1, ?_, hreports⟩
    rw [← hchecks]
    exact Turn.failedNames_eq_blockLines h 1

/-- Every completed run has a transcript that agrees with its result, and a run is completed if and
only if no failure leaves a check and the numbers of its summary can be written. -/
theorem transcript_of_run (checks : List (Check Script)) (p : Policy) (units : List SourceUnit)
    (fs : Files) (source : Twister) :
    (∀ report r, withReport checks p units fs report source = .ok r →
      Transcript report checks (turnsOf checks p units fs source) r) ∧
    (∀ (e : Engine) r, e.run checks p units fs source = .ok r →
      Transcript r.report checks (turnsOf checks p units fs source) r) ∧
    ∀ report, (∃ r, withReport checks p units fs report source = .ok r) ↔
      (∀ t ∈ turnsOf checks p units fs source, t.isFatal = false) ∧
        Writable p report ((turnsOf checks p units fs source).flatMap Turn.grades) := by
  have hrun (report : Report) (r : Result)
      (h : withReport checks p units fs report source = .ok r) :
      r.report = report ∧ Transcript report checks (turnsOf checks p units fs source) r := by
    obtain ⟨contained, text, hsummary, rfl⟩ := withReport_eq_ok_iff.mp h
    refine ⟨rfl, transcript_resultOf p report (Setting.map_check_turns _ source checks contained)
      ?_ ?_ text⟩
    · exact fun t ht => ⟨contained t ht, Setting.logged_of_mem_turns _ source checks ht⟩
    · exact fun g hg => (summaryOf_eq_ok_iff.mp ⟨text, hsummary⟩).possible_of_mem
        (inRange_turnsOf checks p units fs source) hg
  refine ⟨fun report r h => (hrun report r h).2, ?_, ?_⟩
  · intro e r h
    unfold Engine.run at h
    obtain ⟨report, -, h⟩ := Traversal.bind_eq_ok_iff.mp h
    obtain ⟨rfl, htranscript⟩ := hrun report r h
    exact htranscript
  · exact fun report => exists_withReport_iff

/-- A check that exits behind a grade and a comment, and one that gets no points: with a report of a
sign of cheating and a rule that failed, and with the report of the rules on no submissions. -/
theorem transcript_of_run_exit :
    let exit : Check Script := ⟨"exit", "exits", .grading 30 "sum" (.done (.bool true)) fun _ =>
      .comment "leaving" none (.fail ⟨"SystemExit", "3", []⟩)⟩
    let none : Check Script := ⟨"none", "gets nothing",
      .grading 20 "names" (.fail ⟨"KeyError", "'x'", []⟩) fun _ => .done .none⟩
    let report : Report := {
      violations := [⟨"cheat_imports", .cheat, "a.py", ⟨"a.py", 1, 1⟩, "imports os"⟩]
      diagnostics := [⟨"a.py", "loops", "Rule loops failed"⟩] }
    let ts := turnsOf [exit, none] {} [] ⟨"/work", []⟩ ⟨#[], 0⟩
    (∃ r, withReport [exit, none] {} [] ⟨"/work", []⟩ report ⟨#[], 0⟩ = .ok r ∧
      Transcript report [exit, none] ts r ∧ r.failed = ["exit"] ∧
      r.lines.map (·.kind) = [.integrity, .violation, .diagnostic, .check, .grade, .comment,
        .diagnostic, .check, .grade, .comment, .summary]) ∧
    ∃ r, Engine.standard.run [exit, none] {} [] ⟨"/work", []⟩ ⟨#[], 0⟩ = .ok r ∧
      Transcript r.report [exit, none] ts r := by
  intro exit none report ts
  obtain ⟨hgiven, hrules, hcompleted⟩ :=
    transcript_of_run [exit, none] {} [] ⟨"/work", []⟩ ⟨#[], 0⟩
  have hcontained : ∀ t ∈ ts, t.isFatal = false := by
    intro t ht
    rcases List.mem_cons.mp ht with rfl | ht
    · rfl
    · rw [List.mem_singleton.mp ht]
      rfl
  have hrun := run_standard [exit, none] {} [] ⟨"/work", []⟩ ⟨#[], 0⟩
  obtain ⟨r, hr⟩ := (hcompleted report).mpr ⟨hcontained, rfl, rfl, rfl, rfl⟩
  obtain ⟨r', hr'⟩ := (hcompleted (Engine.standard.report {} [])).mpr
    ⟨hcontained, rfl, rfl, by decide +kernel, rfl⟩
  have htranscript := hgiven report r hr
  obtain ⟨-, text, -, rfl⟩ := withReport_eq_ok_iff.mp hr
  exact ⟨⟨_, hr, htranscript, rfl, rfl⟩, r', hrun.trans hr', hrules _ r' (hrun.trans hr')⟩

end Run

end Grader
