import Grader.Grading.Session
import Mathlib

/-! What checks do to a session. An operation answers from the source of random data alone, and it
only adds: grades, lines and notes at the end. So what a script does can be read off a fresh
session and holds in every other one that is not settled (`play_framed`). -/

namespace Grader

/-- What is added to a session, and the source of random data that is left. -/
structure Extension where
  grades : List Grade := []
  lines : List Line := []
  notes : List Note := []
  source : Twister

namespace Extension

def append (x y : Extension) : Extension :=
  ⟨x.grades ++ y.grades, x.lines ++ y.lines, x.notes ++ y.notes, y.source⟩

@[simp] theorem append_source (x y : Extension) : (x.append y).source = y.source := rfl

end Extension

def commented (text : String) (position : Option Position) (source : Twister) : Extension :=
  { lines := [{ kind := .comment, text, position }], source }

namespace Session

/-- The score of the session is not settled. -/
def IsOpen (s : Session) : Prop := s.score.settled = none

/-- The session with an extension at its end. -/
def extend (s : Session) (x : Extension) : Session where
  score := { s.score with grades := s.score.grades ++ x.grades }
  lines := s.lines ++ x.lines
  source := x.source
  notes := s.notes ++ x.notes

@[simp] theorem extend_source (s : Session) (x : Extension) : (s.extend x).source = x.source := rfl

theorem extend_nothing (s : Session) : s.extend { source := s.source } = s := by
  simp only [extend, List.append_nil]

theorem extend_extend (s : Session) (x y : Extension) :
    (s.extend x).extend y = s.extend (x.append y) := by
  simp only [extend, Extension.append, List.append_assoc]

theorem comment_eq_extend (s : Session) (text : String) (position : Option Position) :
    s.comment text position = s.extend (commented text position s.source) := by
  simp only [comment, emit, extend, commented, List.append_nil]

theorem note_eq_extend (s : Session) (n : Note) :
    s.note n = s.extend { notes := [n], source := s.source } := by
  simp only [note, extend, List.append_nil]

/-- An open session takes every grade with points between zero and what is possible. -/
theorem record_of_isOpen {s : Session} (h : s.IsOpen) {g : Grade} (h0 : 0 ≤ g.awarded)
    (h1 : g.awarded ≤ g.possible) :
    s.record g = .ok (s.extend { grades := [g], source := s.source }) := by
  have hs : s.score.isSettled = false := by
    unfold IsOpen at h
    simp only [Score.isSettled, h, Option.isSome_none]
  have hg : ¬(g.possible < 0 ∨ g.awarded < 0 ∨ g.possible < g.awarded) := by omega
  simp only [record, Score.addGrade, hs, hg, Bool.false_eq_true, ↓reduceIte, extend,
    List.append_nil]

end Session

/-- The operation answers from the source of random data alone and only adds to the session. -/
def Framed {α : Type} (f : Session → Answer α) : Prop :=
  ∀ source, ∃ a x, ∀ s : Session, s.IsOpen → s.source = source → f s = (a, s.extend x)

namespace Framed

variable {α β : Type}

theorem answer (a : Except Failure α) : Framed fun s => (a, s) := by
  intro source
  refine ⟨a, { source }, ?_⟩
  rintro s - rfl
  rw [Session.extend_nothing]

/-- An addition in front of a framed operation leaves it framed. -/
theorem after {f : Session → Answer α} (hf : Framed f) {g : Session → Session}
    (x : Twister → Extension) (hg : ∀ s : Session, s.IsOpen → g s = s.extend (x s.source)) :
    Framed fun s => f (g s) := by
  intro source
  obtain ⟨a, y, hy⟩ := hf (x source).source
  refine ⟨a, (x source).append y, ?_⟩
  rintro s hs rfl
  change f (g s) = _
  rw [hg s hs, hy (s.extend (x s.source)) hs rfl, Session.extend_extend]

/-- Two framed operations, the second of which depends on the answer of the first. -/
theorem bind {f : Session → Answer α} {g : Except Failure α → Session → Answer β}
    (hf : Framed f) (hg : ∀ a, Framed (g a)) : Framed fun s => g (f s).1 (f s).2 := by
  intro source
  obtain ⟨a, x, hx⟩ := hf source
  obtain ⟨b, y, hy⟩ := hg a x.source
  refine ⟨b, x.append y, ?_⟩
  intro s hs hsource
  change g (f s).1 (f s).2 = _
  rw [hx s hs hsource, hy (s.extend x) hs rfl, Session.extend_extend]

theorem comment {f : Session → Answer α} (hf : Framed f) (text : String)
    (position : Option Position) : Framed fun s => f (s.comment text position) :=
  hf.after (commented text position) fun s _ => s.comment_eq_extend text position

end Framed

namespace Setting

variable {α : Type}

/-- What an awarded grade adds; its line is missing if its points cannot be written. -/
def graded (check : String) (points : Int) (description : String) (passed : Bool)
    (source : Twister) : Extension where
  grades := [⟨check, description, if passed then points else 0, points, passed⟩]
  lines :=
    match Decimal.spelled points with
    | .ok text => [gradeLine text description passed]
    | .error _ => []
  source := source

/-- Points that are not negative are always awarded in an open session. -/
theorem award_of_isOpen {s : Session} (h : s.IsOpen) (check description : String) {points : Int}
    (hp : ¬points < 0) (passed : Bool) :
    award check points description passed s =
      ((Decimal.spelled points).map fun _ => (),
        s.extend (graded check points description passed s.source)) := by
  have hr := s.record_of_isOpen h
    (g := ⟨check, description, if passed then points else 0, points, passed⟩)
    (by cases passed <;> simp; omega) (by cases passed <;> simp; omega)
  -- The grade is recorded before its line is written, and stays when that fails.
  cases hspelled : Decimal.spelled points with
  | error f =>
    simp only [award, hr, hspelled, Session.extend, graded, Except.map]
  | ok text =>
    simp only [award, hr, hspelled, Session.emit, Session.extend, graded, Except.map,
      List.append_nil]

theorem framed_award (check description : String) {points : Int} (hp : ¬points < 0)
    (passed : Bool) : Framed (award check points description passed) := by
  intro source
  refine ⟨(Decimal.spelled points).map fun _ => (),
    graded check points description passed source, ?_⟩
  rintro s hs rfl
  exact award_of_isOpen hs check description hp passed

theorem framed_grade (check : String) (points : Int) (description : String)
    {outcome : Session → Answer Value} (h : Framed outcome) :
    Framed (grade check points description outcome) := by
  by_cases hp : points < 0
  · -- Negative points are refused before the outcome is asked for.
    unfold grade
    simp only [hp, ↓reduceIte]
    exact Framed.answer _
  intro source
  obtain ⟨r, x, hx⟩ := h source
  cases hr : resolve r with
  | error f =>
    refine ⟨.error f, x, ?_⟩
    intro s hs hsource
    simp only [grade, hp, ↓reduceIte, hx s hs hsource, hr]
  | ok verdict =>
    obtain ⟨passed, complaint⟩ := verdict
    obtain ⟨a, y, hy⟩ := framed_award check description hp passed x.source
    cases a with
    | error f =>
      refine ⟨.error f, x.append y, ?_⟩
      intro s hs hsource
      simp only [grade, hp, ↓reduceIte, hx s hs hsource, hr, hy (s.extend x) hs rfl,
        Session.extend_extend]
    | ok _ =>
      cases complaint with
      | none =>
        refine ⟨.ok passed, x.append y, ?_⟩
        intro s hs hsource
        simp only [grade, hp, ↓reduceIte, hx s hs hsource, hr, hy (s.extend x) hs rfl,
          Session.extend_extend]
      | some text =>
        refine ⟨.ok passed, (x.append y).append
          (commented (description ++ ": " ++ text) none y.source), ?_⟩
        intro s hs hsource
        simp only [grade, hp, ↓reduceIte, hx s hs hsource, hr, hy (s.extend x) hs rfl,
          Session.comment_eq_extend, Session.extend_source, Session.extend_extend,
          Extension.append_source]

theorem framed_evaluateCases (description : String) {holds : Nat → Value → Session → Answer Value}
    {explain : Value → Session → Answer Value} (broken : Option Failure)
    (hh : ∀ n v, Framed (holds n v)) (he : ∀ v, Framed (explain v)) (items : List Value) (n : Nat) :
    Framed (evaluateCases description holds explain broken n items) := by
  -- The source that a case leaves is where the next one starts, so the induction is for every
  -- source and every number.
  induction items generalizing n with
  | nil =>
    cases broken with
    | none => exact Framed.answer _
    | some f => exact Framed.answer _
  | cons c rest ih =>
    intro source
    obtain ⟨r, x, hx⟩ := hh n c source
    cases hr : resolve r with
    | error f =>
      refine ⟨.error f, x, ?_⟩
      intro s hs hsource
      simp only [evaluateCases, hx s hs hsource, hr]
    | ok verdict =>
      obtain ⟨passed, complaint⟩ := verdict
      cases passed with
      | true =>
        -- The evaluation goes on behind what the case has added.
        obtain ⟨a, y, hy⟩ := ih (n + 1) x.source
        refine ⟨a, x.append y, ?_⟩
        intro s hs hsource
        simp only [evaluateCases, hx s hs hsource, hr, hy (s.extend x) hs rfl,
          Session.extend_extend]
      | false =>
        -- The case is explained, and the comment comes behind what the explanation has added.
        obtain ⟨e, y, hy⟩ := he c x.source
        cases ht : e.bind fun detail => caseText description detail complaint with
        | error f =>
          refine ⟨.error f, x.append y, ?_⟩
          intro s hs hsource
          simp only [evaluateCases, hx s hs hsource, hr, hy (s.extend x) hs rfl, ht,
            Session.extend_extend]
        | ok text =>
          refine ⟨.ok ⟨false, n + 1⟩, (x.append y).append (commented text none y.source), ?_⟩
          intro s hs hsource
          simp only [evaluateCases, hx s hs hsource, hr, hy (s.extend x) hs rfl, ht,
            Session.comment_eq_extend, Session.extend_source, Session.extend_extend,
            Extension.append_source]

theorem framed_gradeEach (check : String) (points : Int) (description : String) (cases : Cases)
    {holds : Nat → Value → Session → Answer Value} {explain : Value → Session → Answer Value}
    (hh : ∀ n v, Framed (holds n v)) (he : ∀ v, Framed (explain v)) :
    Framed (gradeEach check points description cases holds explain) := by
  by_cases hp : points < 0
  · -- No case is evaluated for negative points.
    unfold gradeEach
    simp only [hp, ↓reduceIte]
    exact Framed.answer _
  intro source
  obtain ⟨a, x, hx⟩ :=
    framed_evaluateCases description cases.broken hh he cases.items 0 source
  cases a with
  | error f =>
    refine ⟨.error f, x, ?_⟩
    intro s hs hsource
    simp only [gradeEach, hp, ↓reduceIte, hx s hs hsource]
  | ok outcome =>
    obtain ⟨b, y, hy⟩ := framed_award check description hp outcome.passed x.source
    cases b with
    | error f =>
      refine ⟨.error f, x.append y, ?_⟩
      intro s hs hsource
      simp only [gradeEach, hp, ↓reduceIte, hx s hs hsource, hy (s.extend x) hs rfl,
        Session.extend_extend]
    | ok _ =>
      refine ⟨.ok outcome, x.append y, ?_⟩
      intro s hs hsource
      simp only [gradeEach, hp, ↓reduceIte, hx s hs hsource, hy (s.extend x) hs rfl,
        Session.extend_extend]

theorem framed_examine (c : Setting) (t : Target) {holds : SourceUnit → Session → Answer Value}
    (hh : ∀ u, Framed (holds u)) : Framed (c.examine t holds) := by
  unfold examine
  cases c.target t with
  | error f => exact Framed.answer _
  | ok u =>
    by_cases hu : u.parsable = true
    · simp only [hu, ↓reduceIte]
      intro source
      obtain ⟨a, x, hx⟩ := hh u source
      cases a with
      | ok v =>
        refine ⟨.ok v.truthy, x, ?_⟩
        intro s hs hsource
        simp only [hx s hs hsource]
      | error f =>
        cases hf : f.handled with
        | ok text =>
          -- Two comments follow on what the predicate has left.
          refine ⟨.ok false, (x.append (commented ("Check failed: " ++ text) none
            x.source)).append (commented ("Is there a syntax error in your submission? " ++ u.path)
              none x.source), ?_⟩
          intro s hs hsource
          simp only [hx s hs hsource, hf, Session.comment_eq_extend,
            Session.extend_source, Session.extend_extend, Extension.append_source, commented]
        | error g =>
          refine ⟨.error g, x, ?_⟩
          intro s hs hsource
          simp only [hx s hs hsource, hf]
    · simp only [hu]
      exact (Framed.answer _).comment _ _

/-- Whatever a script does, it answers from the source of random data alone and only adds to the
session. -/
theorem play_framed (c : Setting) (check : String) (script : Script) :
    Framed (c.play check script) := by
  -- What an operation does itself is framed, and so is what the script does with its answer.
  induction script with
  | done v => exact Framed.answer _
  | fail f => exact Framed.answer _
  | note label v next ih =>
    exact ih.after (fun source => { notes := [⟨check, label, v⟩], source })
      fun s _ => s.note_eq_extend ⟨check, label, v⟩
  | grading points description outcome next iho ihn =>
    exact (framed_grade check points description iho).bind ihn
  | gradingEach points description cases predicate explain next ihp ihe ihn =>
    exact (framed_gradeEach check points description cases ihp ihe).bind ihn
  | comment text position next ih => exact ih.comment text position
  | inspect t predicate next ihp ihn => exact (framed_examine c t ihp).bind ihn
  | unit name next ih => exact ih (c.unit name)
  | draw d next ih =>
    -- The one operation that moves the source, by itself and not by the session.
    intro source
    obtain ⟨a, x, hx⟩ := ih (d.run.run source).1 (d.run.run source).2
    refine ⟨a, x, ?_⟩
    rintro s hs rfl
    exact hx { s with source := (d.run.run s.source).2 } hs rfl
  | policy next ih => exact ih c.policy

end Setting

end Grader
