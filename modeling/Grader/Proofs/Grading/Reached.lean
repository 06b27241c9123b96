import Grader.Proofs.Grading.Assertions
import Grader.Proofs.Grading.Turn
import Grader.Proofs.Traversal

/-! The calls for grades that a run makes. A script that is played reaches its calls in the sessions
that what came before has left, also from within an outcome, a case or an inspection. All of these
sessions are open, and so every call of a run is all or nothing, as far as failures can be described
and points can be written. -/

namespace Grader

/-- A call that asks for a grade: for one outcome, or for the cases of a table. -/
inductive Assertion where
  | outcome (points : Int) (description : String) (outcome : Script)
  | cases (points : Int) (description : String) (cases : Cases)
    (predicate : Nat → Value → Script) (explain : Value → Script)

namespace Assertion

/-- The script begins with the call. -/
inductive Begins : Assertion → Script → Prop
  | outcome (points : Int) (description : String) (script : Script)
    (next : Except Failure Bool → Script) :
    Begins (.outcome points description script) (.grading points description script next)
  | cases (points : Int) (description : String) (table : Cases) (predicate : Nat → Value → Script)
    (explain : Value → Script) (next : Except Failure CaseOutcome → Script) :
    Begins (.cases points description table predicate explain)
      (.gradingEach points description table predicate explain next)

/-- What the call evaluates does not write to the grades and lines of the run itself. -/
def IsSilent : Assertion → Prop
  | outcome _ _ script => script.IsSilent
  | cases _ _ _ predicate explain => (∀ n v, (predicate n v).IsSilent) ∧ ∀ v, (explain v).IsSilent

/-- The call of a check, made in a session, gives one grade and the lines for it, or nothing. -/
def IsAllOrNothing (c : Setting) (check : String) (s : Session) : Assertion → Prop
  | outcome points description script =>
    Setting.GradesOutcome check points description (c.play check script) s
  | cases points description table predicate explain =>
    Setting.GradesCases check points description table (fun n v => c.play check (predicate n v))
      (fun v => c.play check (explain v)) s

theorem isAllOrNothing (c : Setting) (check : String) {s : Session} (hs : s.IsOpen) {a : Assertion}
    (h : a.IsSilent) : a.IsAllOrNothing c check s := by
  cases a with
  | outcome points description script =>
    exact Setting.gradesOutcome hs (c.play_untouched check h s)
  | cases points description table predicate explain =>
    exact Setting.gradesCases (fun n v => c.play_untouched check (h.1 n v))
      (fun v => c.play_untouched check (h.2 v)) hs

end Assertion

theorem Framed.isOpen {α : Type} {f : Session → Answer α} (h : Framed f) {s : Session}
    (hs : s.IsOpen) : (f s).2.IsOpen := by
  obtain ⟨a, x, hx⟩ := h s.source
  rw [hx s hs rfl]
  exact hs

namespace Setting

theorem HoldsAll.isOpen {holds : Nat → Value → Session → Answer Value}
    (hh : ∀ n v, Framed (holds n v)) {n : Nat} {items : List Value} {s t : Session}
    (h : HoldsAll holds n items s t) (hs : s.IsOpen) : t.IsOpen := by
  induction h with
  | nil => exact hs
  | cons _ _ ih => exact ih ((hh _ _).isOpen hs)

/-- A script that is played in one session has another one played in another session: within what an
operation evaluates, or after the operation. -/
inductive Leads (c : Setting) (check : String) : Script × Session → Script × Session → Prop
  | outcome {points : Int} {description : String} {outcome : Script}
    {next : Except Failure Bool → Script} {s : Session} (h0 : 0 ≤ points) :
    Leads c check (.grading points description outcome next, s) (outcome, s)
  | graded {points : Int} {description : String} {outcome : Script}
    {next : Except Failure Bool → Script} {s : Session} {r : Answer Bool}
    (hr : r = grade check points description (c.play check outcome) s) :
    Leads c check (.grading points description outcome next, s) (next r.1, r.2)
  | case {points : Int} {description : String} {table : Cases}
    {predicate : Nat → Value → Script} {explain : Value → Script}
    {next : Except Failure CaseOutcome → Script} {front rest : List Value} {v : Value}
    {s t : Session} (h0 : 0 ≤ points) (hitems : table.items = front ++ v :: rest)
    (hfront : HoldsAll (fun n v => c.play check (predicate n v)) 0 front s t) :
    Leads c check (.gradingEach points description table predicate explain next, s)
      (predicate front.length v, t)
  | explanation {points : Int} {description : String} {table : Cases}
    {predicate : Nat → Value → Script} {explain : Value → Script}
    {next : Except Failure CaseOutcome → Script} {front rest : List Value} {v : Value}
    {s t : Session} {r : Answer Value} (h0 : 0 ≤ points)
    (hitems : table.items = front ++ v :: rest)
    (hfront : HoldsAll (fun n v => c.play check (predicate n v)) 0 front s t)
    (hr : r = c.play check (predicate front.length v) t) (hcontained : IsContained r.1)
    (hfalse : succeeds r.1 = false) :
    Leads c check (.gradingEach points description table predicate explain next, s) (explain v, r.2)
  | gradedEach {points : Int} {description : String} {table : Cases}
    {predicate : Nat → Value → Script} {explain : Value → Script}
    {next : Except Failure CaseOutcome → Script} {s : Session} {r : Answer CaseOutcome}
    (hr : r = gradeEach check points description table
      (fun n v => c.play check (predicate n v)) (fun v => c.play check (explain v)) s) :
    Leads c check (.gradingEach points description table predicate explain next, s)
      (next r.1, r.2)
  | note {label : String} {v : Value} {next : Script} {s : Session} :
    Leads c check (.note label v next, s) (next, s.note ⟨check, label, v⟩)
  | comment {text : String} {position : Option Position} {next : Script} {s : Session} :
    Leads c check (.comment text position next, s) (next, s.comment text position)
  | inspection {target : Target} {predicate : SourceUnit → Script}
    {next : Except Failure Bool → Script} {u : SourceUnit} {s : Session}
    (hu : c.target target = .ok u) (hparsable : u.parsable = true) :
    Leads c check (.inspect target predicate next, s) (predicate u, s)
  | inspected {target : Target} {predicate : SourceUnit → Script}
    {next : Except Failure Bool → Script} {s : Session} {r : Answer Bool}
    (hr : r = c.examine target (fun u => c.play check (predicate u)) s) :
    Leads c check (.inspect target predicate next, s) (next r.1, r.2)
  | unit {name : String} {next : Except Failure SourceUnit → Script} {s : Session} :
    Leads c check (.unit name next, s) (next (c.unit name), s)
  | draw {d : Draw Value} {next : Except Failure Value → Script} {s : Session} :
    Leads c check (.draw d next, s)
      (next (d.run.run s.source).1, { s with source := (d.run.run s.source).2 })
  | policy {next : Policy → Script} {s : Session} :
    Leads c check (.policy next, s) (next c.policy, s)

/-- No operation settles the score. -/
theorem Leads.isOpen {c : Setting} {check : String} {x y : Script × Session}
    (h : Leads c check x y) (hx : x.2.IsOpen) : y.2.IsOpen := by
  have hplay (script : Script) : Framed (c.play check script) := c.play_framed check script
  cases h with
  | outcome | note | comment | inspection | unit | draw | policy => exact hx
  | graded hr =>
    rw [hr]
    exact (framed_grade check _ _ (hplay _)).isOpen hx
  | case _ _ hfront => exact hfront.isOpen (fun n v => hplay _) hx
  | explanation _ _ hfront hr _ _ =>
    rw [hr]
    exact (hplay _).isOpen (hfront.isOpen (fun n v => hplay _) hx)
  | gradedEach hr =>
    rw [hr]
    exact (framed_gradeEach check _ _ _ (fun n v => hplay _) (fun v => hplay _)).isOpen hx
  | inspected hr =>
    rw [hr]
    exact (c.framed_examine _ (fun u => hplay _)).isOpen hx

/-- A script of a check that is played in a session makes a call in another session. -/
def Makes (c : Setting) (check : String) (script : Script) (s : Session) (a : Assertion)
    (t : Session) : Prop :=
  ∃ k, a.Begins k ∧ Relation.ReflTransGen (Leads c check) (script, s) (k, t)

theorem Makes.isOpen {c : Setting} {check : String} {script : Script} {s t : Session}
    {a : Assertion} (h : Makes c check script s a t) (hs : s.IsOpen) : t.IsOpen := by
  obtain ⟨k, -, hleads⟩ := h
  have hrun (y : Script × Session) (h : Relation.ReflTransGen (Leads c check) (script, s) y) :
      y.2.IsOpen := by
    induction h with
    | refl => exact hs
    | tail _ hstep ih => exact hstep.isOpen ih
  exact hrun _ hleads

end Setting

namespace Run

variable {c : Setting} {n : Nat} {s t : Session}

theorem isOpen_of_runCheck {check : Check Script} {failed : List String} (hs : s.IsOpen)
    (h : runCheck c n check s = .ok (failed, t)) : t.IsOpen := by
  -- A check that is contained adds to the session only, and one that is not leaves no session.
  cases hfatal : (c.turn check s.source).isFatal with
  | false =>
    rw [runCheck_of_contained c n check hs hfatal] at h
    cases h
    exact hs
  | true =>
    obtain ⟨g, hg⟩ := Turn.isFatal_iff.mp hfatal
    rw [runCheck_of_escaped c n check hs hg] at h
    cases h

theorem isOpen_of_runChecks {checks : List (Check Script)} {failed : List String} (hs : s.IsOpen)
    (h : runChecks c n checks s = .ok (failed, t)) : t.IsOpen := by
  induction checks generalizing n s failed with
  | nil =>
    cases h
    exact hs
  | cons check rest ih =>
    obtain ⟨⟨first, u⟩, hcheck, h⟩ := Traversal.bind_eq_ok_iff.mp h
    obtain ⟨⟨others, w⟩, hrest, h⟩ := Traversal.bind_eq_ok_iff.mp h
    cases h
    exact ih (isOpen_of_runCheck hs hcheck) hrest

/-- A check of a run makes a call in a session, when the checks in front of it have been run. -/
inductive Makes (checks : List (Check Script)) (p : Policy) (units : List SourceUnit) (fs : Files)
    (r : Report) (source : Twister) (check : Check Script) : Assertion → Session → Prop
  | made {front back : List (Check Script)} {failed : List String} {first before s : Session}
    {a : Assertion} (hchecks : checks = front ++ check :: back)
    (hopening : opening p r source = .ok first)
    (hfront : runChecks ⟨p, Setting.byPath units, fs⟩ 1 front first = .ok (failed, before))
    (h : Setting.Makes ⟨p, Setting.byPath units, fs⟩ check.name check.body
      (before.emit (checkLine (front.length + 1) check)) a s) :
    Makes checks p units fs r source check a s

/-- Every call for a grade that a run makes is all or nothing, if what it evaluates does not write
to the grades and lines of the run itself. It fails without a grade if an ordinary failure cannot be
described, and behind the grade if the points cannot be written. -/
theorem assertions_all_or_nothing (checks : List (Check Script)) (p : Policy)
    (units : List SourceUnit) (fs : Files) (r : Report) (source : Twister) (check : Check Script)
    (a : Assertion) (s : Session) (hmade : Makes checks p units fs r source check a s)
    (hsilent : a.IsSilent) :
    a.IsAllOrNothing ⟨p, Setting.byPath units, fs⟩ check.name s := by
  obtain ⟨-, hopening, hfront, h⟩ := hmade
  -- The score is open at first, behind the checks in front, and on the way to the call.
  rw [opening_eq] at hopening
  cases hopening
  have hbefore := isOpen_of_runChecks (s := opened p r source) rfl hfront
  exact Assertion.isAllOrNothing _ _ (h.isOpen hbefore) hsilent

/-- The second call of a check, after one for an outcome that failed. The second case does not hold
and ends the evaluation. -/
theorem assertions_all_or_nothing_second :
    let table : Cases := ⟨[.int 1, .int 0, .int 3], none⟩
    let holds (_ : Nat) (v : Value) : Script := .done v
    let check : Check Script := ⟨"a", "asserts", .grading 1 "sum" (.fail ⟨"KeyError", "'x'", []⟩)
      fun _ => .gradingEach 2 "cases" table holds .unexplained fun _ => .done .none⟩
    let c : Setting := ⟨{}, [], ⟨"/work", []⟩⟩
    ∃ s, Makes [check] {} [] ⟨"/work", []⟩ {} ⟨#[], 0⟩ check
        (.cases 2 "cases" table holds .unexplained) s ∧
      let r := Setting.gradeEach "a" 2 "cases" table (fun n v => c.play "a" (holds n v))
        (fun v => c.play "a" (.unexplained v)) s
      r.1 = .ok ⟨false, 2⟩ ∧
      r.2.score.grades = s.score.grades ++ [⟨"a", "cases", 0, 2, false⟩] ∧
      r.2.lines = s.lines ++ [{ kind := .comment, text := "cases: failed for 0" },
        { kind := .grade, text := "[FAILED] cases (0 of 2 points)" }] := by
  intro table holds check c
  set first := (opened {} {} ⟨#[], 0⟩).emit (checkLine 1 check) with hfirst
  set graded := Setting.grade "a" 1 "sum" (c.play "a" (.fail ⟨"KeyError", "'x'", []⟩)) first
  have hmade : Makes [check] {} [] ⟨"/work", []⟩ {} ⟨#[], 0⟩ check
      (.cases 2 "cases" table holds .unexplained) graded.2 := by
    have hchecks : [check] = [] ++ check :: [] := rfl
    refine .made hchecks (opening_eq _ _ _) rfl ⟨_, .cases 2 "cases" table holds
      .unexplained fun _ => .done .none, ?_⟩
    exact .single (.graded rfl)
  have hsilent : (Assertion.cases 2 "cases" table holds .unexplained).IsSilent := by
    refine ⟨fun _ v => .done v, fun v => ?_⟩
    unfold Script.unexplained
    split
    · exact .done _
    · exact .fail _
  have hall := assertions_all_or_nothing _ _ _ _ _ _ _ _ _ hmade hsilent
  have hcase : Setting.HoldsAll (fun n v => c.play "a" (holds n v)) 0 [.int 1] graded.2 graded.2 :=
    .cons rfl (.nil 1 _)
  have hcontained : Setting.IsContained (.ok (.int 0)) := fun f h => by cases h
  have hcomment : Setting.caseText "cases" (.str "failed for 0") none = .ok "cases: failed for 0" :=
    by decide +kernel
  have hexplain : c.play "a" (.unexplained (.int 0)) graded.2 =
      (.ok (.str "failed for 0"), graded.2) := rfl
  obtain ⟨hanswer, hadds⟩ := hall.failed (by decide) (by decide) [.int 1] (.int 0)
    "cases: failed for 0" graded.2
    ⟨⟨[.int 3], rfl⟩, graded.2, .str "failed for 0", hcase, hcontained, rfl, hexplain, hcomment⟩
  exact ⟨graded.2, hmade, hanswer, congrArg Score.grades hadds.score, hadds.lines⟩

/-- Calls that are neither all nor nothing: one for an outcome that fails by an ordinary failure
without a text, which should be graded, and one for points with too many digits, which is. -/
theorem assertions_half_done :
    let mute : Script := .fail .unworded
    let passing : Script := .done (.bool true)
    let of (points : Int) (outcome : Script) : Check Script :=
      ⟨"k", "k", .grading points "d" outcome fun _ => .done .none⟩
    let grade (points : Int) (outcome : Script) (s : Session) :=
      Setting.grade "k" points "d" (Setting.play ⟨{}, [], ⟨"/work", []⟩⟩ "k" outcome) s
    Failure.unworded.reach = .ordinary ∧
      (∃ s, Makes [of 50 mute] {} [] ⟨"/work", []⟩ {} ⟨#[], 0⟩ (of 50 mute)
          (.outcome 50 "d" mute) s ∧
        grade 50 mute s = (.error (.type "__str__ returned non-string (type int)"), s)) ∧
      ∃ s, Makes [of (10 ^ 4300) passing] {} [] ⟨"/work", []⟩ {} ⟨#[], 0⟩
          (of (10 ^ 4300) passing) (.outcome (10 ^ 4300) "d" passing) s ∧
        (grade (10 ^ 4300) passing s).1 = .error Decimal.tooLong ∧
        (grade (10 ^ 4300) passing s).2.score.grades =
          s.score.grades ++ [⟨"k", "d", 10 ^ 4300, 10 ^ 4300, true⟩] ∧
        (grade (10 ^ 4300) passing s).2.lines = s.lines := by
  intro mute passing of grade
  have hmade (points : Int) (outcome : Script) :
      Makes [of points outcome] {} [] ⟨"/work", []⟩ {} ⟨#[], 0⟩ (of points outcome)
        (.outcome points "d" outcome)
        ((opened {} {} ⟨#[], 0⟩).emit (checkLine 1 (of points outcome))) := by
    have hchecks : [of points outcome] = [] ++ of points outcome :: [] := rfl
    exact .made hchecks (opening_eq _ _ _) rfl ⟨_, .outcome points "d" outcome fun _ => .done .none,
      .refl⟩
  -- For any points that cannot be written, so that the power need not be computed.
  have hcall (points : Int) (s : Session) (hs : s.IsOpen) (hp : 0 ≤ points)
      (hlong : Decimal.isWritable points = false) :
      (grade points passing s).1 = .error Decimal.tooLong ∧
        (grade points passing s).2.score.grades =
          s.score.grades ++ [⟨"k", "d", points, points, true⟩] ∧
        (grade points passing s).2.lines = s.lines := by
    have hpassing : Setting.IsContained (.ok (.bool true)) := fun f h => by cases h
    have hgrades : Setting.GradesOutcome "k" points "d"
        (Setting.play ⟨{}, [], ⟨"/work", []⟩⟩ "k" passing) s := Setting.gradesOutcome hs (.refl s)
    obtain ⟨hanswer, hadds⟩ := hgrades.unwritten hp hpassing hlong
    exact ⟨hanswer, congrArg Score.grades hadds.score, hadds.lines.trans (List.append_nil _)⟩
  exact ⟨rfl, ⟨_, hmade 50 mute, rfl⟩, _, hmade (10 ^ 4300) passing,
    hcall (10 ^ 4300) _ rfl (Int.pow_nonneg (by decide)) (by decide +kernel)⟩

end Run

end Grader
