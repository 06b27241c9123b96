import Grader.Grading.Session
import Grader.Proofs.Failure

/-! What the operations of a check keep. A property of sessions that comments, notes, draws and
awarded grades keep holds after every script for which it held before (`play_keeps`). -/

namespace Grader

/-- The points of the grade lie between none and all that were possible. -/
def Grade.InRange (g : Grade) : Prop := 0 ≤ g.awarded ∧ g.awarded ≤ g.possible

namespace Session

/-- The session with one more grade. -/
def withGrade (s : Session) (g : Grade) : Session :=
  { s with score := { s.score with grades := s.score.grades ++ [g] } }

/-- What is recorded has its points in range. -/
theorem record_eq_ok {s t : Session} {g : Grade} (h : s.record g = .ok t) :
    g.InRange ∧ t = s.withGrade g := by
  unfold record Score.addGrade at h
  cases hsettled : s.score.isSettled with
  | true =>
    rw [hsettled] at h
    cases h
  | false =>
    by_cases hrange : g.possible < 0 ∨ g.awarded < 0 ∨ g.possible < g.awarded
    · simp only [hsettled, hrange, Bool.false_eq_true, ↓reduceIte] at h
      cases h
    · simp only [hsettled, hrange, Bool.false_eq_true, ↓reduceIte] at h
      cases h
      refine ⟨?_, rfl⟩
      unfold Grade.InRange
      omega

/-- The property is kept by everything that a check may do to a session on its own. -/
structure Kept (check : String) (P : Session → Prop) : Prop where
  comment : ∀ s text position, P s → P (s.comment text position)
  note : ∀ s n, P s → P (s.note n)
  draw : ∀ (s : Session) source, P s → P { s with source }
  award : ∀ s points description passed,
    let g : Grade := ⟨check, description, if passed then points else 0, points, passed⟩
    g.InRange → Decimal.isWritable points = true → P s →
      P ((s.withGrade g).emit (Setting.gradeLine (toString points) description passed))
  /-- A grade whose points cannot be written is there without a line. -/
  unwritten : ∀ s (g : Grade), g.InRange → Decimal.isWritable g.possible = false → P s →
    P (s.withGrade g)

end Session

/-- The operation keeps the property, whatever it answers. -/
def Keeps {α : Type} (P : Session → Prop) (f : Session → Answer α) : Prop :=
  ∀ s, P s → P (f s).2

namespace Setting

variable {check : String} {P : Session → Prop}

theorem keeps_award (h : Session.Kept check P) (points : Int) (description : String)
    (passed : Bool) : Keeps P (award check points description passed) := by
  intro s hs
  unfold award
  cases hrecord : s.record ⟨check, description, if passed then points else 0, points, passed⟩ with
  | error f => exact hs
  | ok t =>
    obtain ⟨hrange, rfl⟩ := Session.record_eq_ok hrecord
    cases hspelled : Decimal.spelled points with
    | error f =>
      exact h.unwritten s _ hrange (Decimal.spelled_eq_error_iff.mp hspelled).1 hs
    | ok text =>
      obtain ⟨hwritable, rfl⟩ := Decimal.spelled_eq_ok_iff.mp hspelled
      exact h.award s points description passed hrange hwritable hs

theorem keeps_grade (h : Session.Kept check P) (points : Int) (description : String)
    {outcome : Session → Answer Value} (ho : Keeps P outcome) :
    Keeps P (grade check points description outcome) := by
  intro s hs
  by_cases hp : points < 0
  · simpa only [grade, hp, ↓reduceIte] using hs
  have hafter := ho s hs
  cases hr : resolve (outcome s).1 with
  | error f => simpa only [grade, hp, ↓reduceIte, hr] using hafter
  | ok verdict =>
    obtain ⟨passed, complaint⟩ := verdict
    have ht := keeps_award h points description passed _ hafter
    obtain ⟨answer, t, haward⟩ : ∃ answer t,
        award check points description passed (outcome s).2 = (answer, t) := ⟨_, _, rfl⟩
    rw [haward] at ht
    cases answer with
    | error f => simpa only [grade, hp, ↓reduceIte, hr, haward] using ht
    | ok _ =>
      cases complaint with
      | none => simpa only [grade, hp, ↓reduceIte, hr, haward] using ht
      | some text =>
        simpa only [grade, hp, ↓reduceIte, hr, haward] using h.comment t _ none ht

theorem keeps_evaluateCases (h : Session.Kept check P) (description : String)
    {holds : Nat → Value → Session → Answer Value} {explain : Value → Session → Answer Value}
    (broken : Option Failure) (hh : ∀ n v, Keeps P (holds n v)) (he : ∀ v, Keeps P (explain v))
    (items : List Value) (n : Nat) :
    Keeps P (evaluateCases description holds explain broken n items) := by
  induction items generalizing n with
  | nil =>
    intro s hs
    cases broken with
    | none => exact hs
    | some f => exact hs
  | cons c rest ih =>
    intro s hs
    have hcase := hh n c s hs
    cases hr : resolve (holds n c s).1 with
    | error f => simpa only [evaluateCases, hr] using hcase
    | ok verdict =>
      obtain ⟨passed, complaint⟩ := verdict
      cases passed with
      | true => simpa only [evaluateCases, hr] using ih (n + 1) _ hcase
      | false =>
        have hexplained := he c _ hcase
        cases hd : (explain c (holds n c s).2).1.bind fun detail =>
            caseText description detail complaint with
        | error f => simpa only [evaluateCases, hr, hd] using hexplained
        | ok text =>
          simpa only [evaluateCases, hr, hd] using h.comment _ _ none hexplained

theorem keeps_gradeEach (h : Session.Kept check P) (points : Int) (description : String)
    (cases : Cases) {holds : Nat → Value → Session → Answer Value}
    {explain : Value → Session → Answer Value} (hh : ∀ n v, Keeps P (holds n v))
    (he : ∀ v, Keeps P (explain v)) :
    Keeps P (gradeEach check points description cases holds explain) := by
  intro s hs
  by_cases hp : points < 0
  · simpa only [gradeEach, hp, ↓reduceIte] using hs
  have hafter := keeps_evaluateCases h description cases.broken hh he cases.items 0 s hs
  obtain ⟨answer, t, hcases⟩ : ∃ answer t,
      evaluateCases description holds explain cases.broken 0 cases.items s = (answer, t) :=
    ⟨_, _, rfl⟩
  rw [hcases] at hafter
  cases answer with
  | error f => simpa only [gradeEach, hp, ↓reduceIte, hcases] using hafter
  | ok outcome =>
    have hawarded := keeps_award h points description outcome.passed t hafter
    obtain ⟨answer, u, haward⟩ : ∃ answer u,
        award check points description outcome.passed t = (answer, u) := ⟨_, _, rfl⟩
    rw [haward] at hawarded
    cases answer with
    | error f => simpa only [gradeEach, hp, ↓reduceIte, hcases, haward] using hawarded
    | ok _ => simpa only [gradeEach, hp, ↓reduceIte, hcases, haward] using hawarded

theorem keeps_examine (h : Session.Kept check P) (c : Setting) (t : Target)
    {holds : SourceUnit → Session → Answer Value} (hh : ∀ u, Keeps P (holds u)) :
    Keeps P (c.examine t holds) := by
  intro s hs
  unfold examine
  cases c.target t with
  | error f => exact hs
  | ok u =>
    cases hu : u.parsable with
    | false => simpa only [hu, Bool.false_eq_true, ↓reduceIte] using h.comment s _ none hs
    | true =>
      have hafter := hh u s hs
      obtain ⟨answer, t, hholds⟩ : ∃ answer t, holds u s = (answer, t) := ⟨_, _, rfl⟩
      rw [hholds] at hafter
      cases answer with
      | ok v => simpa only [hu, ↓reduceIte, hholds] using hafter
      | error f =>
        cases hf : f.handled with
        | ok text =>
          simpa only [hu, ↓reduceIte, hholds, hf] using
            h.comment _ _ none (h.comment t _ none hafter)
        | error g => simpa only [hu, ↓reduceIte, hholds, hf] using hafter

/-- What comments, notes, draws and awarded grades keep is kept by every script. -/
theorem play_keeps (h : Session.Kept check P) (c : Setting) (script : Script) :
    Keeps P (c.play check script) := by
  induction script with
  | done v => exact fun _ hs => hs
  | fail f => exact fun _ hs => hs
  | note label v next ih => exact fun s hs => ih _ (h.note s _ hs)
  | grading points description outcome next iho ihn =>
    exact fun s hs => ihn _ _ (keeps_grade h points description iho s hs)
  | gradingEach points description cases predicate explain next ihp ihe ihn =>
    exact fun s hs => ihn _ _ (keeps_gradeEach h points description cases ihp ihe s hs)
  | comment text position next ih => exact fun s hs => ih _ (h.comment s text position hs)
  | inspect t predicate next ihp ihn => exact fun s hs => ihn _ _ (keeps_examine h c t ihp s hs)
  | unit name next ih => exact fun s hs => ih _ s hs
  | draw d next ih => exact fun s hs => ih _ _ (h.draw s _ hs)
  | policy next ih => exact fun s hs => ih _ s hs

end Setting

end Grader
