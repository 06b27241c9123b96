import Grader.Proofs.Failure
import Grader.Proofs.Grading.Extension

/-! Grading is all or nothing, as far as failures can be described and points can be written. A call
that asks for a grade records one and writes one line about it, or it fails and leaves grades and
lines as they were. What it evaluates is silent and does not write there. -/

namespace Grader

/-- A script that does not grade, comment or inspect. It may fail, draw random data and look at the
submissions and at the policy. -/
inductive Script.IsSilent : Script → Prop
  | done (v : Value) : IsSilent (.done v)
  | fail (f : Failure) : IsSilent (.fail f)
  | note {next : Script} (label : String) (v : Value) (h : IsSilent next) :
    IsSilent (.note label v next)
  | unit {next : Except Failure SourceUnit → Script} (name : String) (h : ∀ a, IsSilent (next a)) :
    IsSilent (.unit name next)
  | draw {next : Except Failure Value → Script} (d : Draw Value) (h : ∀ a, IsSilent (next a)) :
    IsSilent (.draw d next)
  | policy {next : Policy → Script} (h : ∀ p, IsSilent (next p)) : IsSilent (.policy next)

namespace Session

variable {s t u : Session}

/-- The grades and the lines of a session are those of an earlier one. -/
structure Untouched (s t : Session) : Prop where
  score : t.score = s.score
  lines : t.lines = s.lines

theorem Untouched.refl (s : Session) : Untouched s s := ⟨rfl, rfl⟩

theorem Untouched.trans (hst : Untouched s t) (htu : Untouched t u) : Untouched s u :=
  ⟨htu.score.trans hst.score, htu.lines.trans hst.lines⟩

theorem Untouched.isOpen (h : Untouched s t) (hs : s.IsOpen) : t.IsOpen := by
  unfold IsOpen
  rw [h.score]
  exact hs

/-- A session with one more grade and with more lines. What else it has is what the evaluations left
that the grade is for. -/
structure AddsGrade (check : String) (points : Int) (description : String) (passed : Bool)
    (added : List Line) (before evaluated after : Session) : Prop where
  score : after.score = { before.score with
    grades := before.score.grades ++
      [⟨check, description, if passed then points else 0, points, passed⟩] }
  lines : after.lines = before.lines ++ added
  source : after.source = evaluated.source
  notes : after.notes = evaluated.notes

theorem Untouched.addsGrade (h : Untouched s t) (check : String) (points : Int)
    (description : String) (passed : Bool) (added : List Line) :
    AddsGrade check points description passed added s t
      (t.extend ⟨[⟨check, description, if passed then points else 0, points, passed⟩],
        added, [], t.source⟩) := by
  refine ⟨?_, ?_, rfl, ?_⟩
  · simp only [extend, h.score]
  · simp only [extend, h.lines]
  · simp only [extend, List.append_nil]

end Session

open Session (Untouched AddsGrade)

namespace Setting

theorem play_untouched (c : Setting) (check : String) {script : Script} (h : script.IsSilent)
    (s : Session) : Untouched s (c.play check script s).2 := by
  induction h generalizing s with
  | done v => exact .refl s
  | fail f => exact .refl s
  | note label v _ ih =>
    exact Untouched.trans (t := s.note ⟨check, label, v⟩) ⟨rfl, rfl⟩ (ih _)
  | unit name _ ih => exact ih _ s
  | draw d _ ih =>
    exact Untouched.trans (t := { s with source := (d.run.run s.source).2 }) ⟨rfl, rfl⟩ (ih _ _)
  | policy _ ih => exact ih _ s

section Resolve

variable {r : Except Failure Value}

/-- Whether the evaluation of an outcome gave a value that counts as true. -/
def succeeds : Except Failure Value → Bool
  | .ok v => v.truthy
  | .error _ => false

/-- The evaluation gave a value, or failed by an ordinary failure that was described. -/
def IsContained (r : Except Failure Value) : Prop :=
  ∀ f, r = .error f → ∃ text, f.handled = .ok text

def complaint : Except Failure Value → Option String
  | .ok _ => none
  | .error f => f.handled.toOption.map ("raised " ++ ·)

theorem resolve_of_isContained (h : IsContained r) : resolve r = .ok (succeeds r, complaint r) := by
  cases r with
  | ok v => rfl
  | error f =>
    obtain ⟨text, htext⟩ := h f rfl
    simp only [resolve, succeeds, complaint, htext]
    rfl

/-- What escapes an evaluation is the failure that is not ordinary, or what describing an ordinary
one raises. -/
theorem exists_resolve_of_not_isContained (h : ¬IsContained r) : ∃ f, resolve r = .error f := by
  unfold IsContained at h
  push Not at h
  obtain ⟨f, rfl, hf⟩ := h
  cases hhandled : f.handled with
  | ok text => exact absurd hhandled (hf text)
  | error g =>
    refine ⟨g, ?_⟩
    simp only [resolve, hhandled]
    rfl

theorem isContained_of_succeeds (h : succeeds r = true) : IsContained r := by
  rintro f rfl
  cases h

end Resolve

section Outcome

variable {check : String} {points : Int} {description : String}
  {outcome : Session → Answer Value} {s : Session}

/-- The comment on an outcome that failed. -/
def raisedLines (description : String) (r : Except Failure Value) : List Line :=
  ((complaint r).map fun text => { kind := .comment, text := description ++ ": " ++ text }).toList

section Award

variable (hs : s.IsOpen) (hp : 0 ≤ points) (passed : Bool)

include hs hp

theorem award_of_isWritable (check description : String)
    (hw : Decimal.isWritable points = true) : award check points description passed s =
      (.ok (), s.extend ⟨[⟨check, description, if passed then points else 0, points, passed⟩],
        [gradeLine (toString points) description passed], [], s.source⟩) := by
  rw [award_of_isOpen hs check description (Int.not_lt.mpr hp) passed]
  simp only [graded, Decimal.spelled_eq_ok_iff.mpr ⟨hw, rfl⟩]
  rfl

/-- Points with too many digits are recorded, but there is no line about them. -/
theorem award_of_not_isWritable (check description : String)
    (hw : Decimal.isWritable points = false) : award check points description passed s =
      (.error Decimal.tooLong,
        s.extend ⟨[⟨check, description, if passed then points else 0, points, passed⟩],
          [], [], s.source⟩) := by
  rw [award_of_isOpen hs check description (Int.not_lt.mpr hp) passed]
  simp only [graded, Decimal.spelled_eq_error_iff.mpr ⟨hw, rfl⟩]
  rfl

end Award

theorem grade_of_isContained (hs : s.IsOpen) (hp : 0 ≤ points) (hr : IsContained (outcome s).1)
    (ht : Untouched s (outcome s).2) (hw : Decimal.isWritable points = true) :
    (grade check points description outcome s).1 = .ok (succeeds (outcome s).1) ∧
    AddsGrade check points description (succeeds (outcome s).1)
      (gradeLine (toString points) description (succeeds (outcome s).1) ::
        raisedLines description (outcome s).1) s (outcome s).2
      (grade check points description outcome s).2 := by
  have haward := award_of_isWritable (ht.isOpen hs) hp (succeeds (outcome s).1) check description hw
  unfold grade
  simp only [Int.not_lt.mpr hp, if_false, resolve_of_isContained hr, haward]
  cases hc : complaint (outcome s).1 with
  | none =>
    have hlines : raisedLines description (outcome s).1 = [] := by rw [raisedLines, hc]; rfl
    rw [hlines]
    exact ⟨rfl, ht.addsGrade check points description _ _⟩
  | some text =>
    have hlines : raisedLines description (outcome s).1 =
        [{ kind := .comment, text := description ++ ": " ++ text }] := by rw [raisedLines, hc]; rfl
    rw [hlines]
    -- The grade is recorded first, and the comment follows on it.
    simp only [Session.comment_eq_extend, Session.extend_extend, true_and]
    exact ht.addsGrade check points description _ _

/-- Where the points cannot be written, the grade is recorded and the call fails behind it. -/
theorem grade_of_not_isWritable (hs : s.IsOpen) (hp : 0 ≤ points)
    (hr : IsContained (outcome s).1) (ht : Untouched s (outcome s).2)
    (hw : Decimal.isWritable points = false) :
    (grade check points description outcome s).1 = .error Decimal.tooLong ∧
    AddsGrade check points description (succeeds (outcome s).1) [] s (outcome s).2
      (grade check points description outcome s).2 := by
  have haward :=
    award_of_not_isWritable (ht.isOpen hs) hp (succeeds (outcome s).1) check description hw
  unfold grade
  simp only [Int.not_lt.mpr hp, if_false, resolve_of_isContained hr, haward, true_and]
  exact ht.addsGrade check points description _ _

theorem grade_of_not_isContained (ht : Untouched s (outcome s).2)
    (h : points < 0 ∨ ¬IsContained (outcome s).1) :
    (∃ f, (grade check points description outcome s).1 = .error f) ∧
    Untouched s (grade check points description outcome s).2 := by
  unfold grade
  by_cases hp : points < 0
  · simp only [hp, if_true]
    exact ⟨⟨_, rfl⟩, .refl s⟩
  · obtain ⟨f, hf⟩ := exists_resolve_of_not_isContained (h.resolve_left hp)
    simp only [hp, if_false, hf]
    exact ⟨⟨f, rfl⟩, ht⟩

/-- A call for the grade of an outcome gives the grade, or it fails. -/
structure GradesOutcome (check : String) (points : Int) (description : String)
    (outcome : Session → Answer Value) (s : Session) : Prop where
  /-- The outcome is commented on exactly if it failed, behind the line about the grade. -/
  graded : 0 ≤ points → IsContained (outcome s).1 → Decimal.isWritable points = true →
    (grade check points description outcome s).1 = .ok (succeeds (outcome s).1) ∧
    AddsGrade check points description (succeeds (outcome s).1)
      (gradeLine (toString points) description (succeeds (outcome s).1) ::
        raisedLines description (outcome s).1) s (outcome s).2
      (grade check points description outcome s).2
  /-- Only for points with too many digits there is a grade without a line, and the call fails. -/
  unwritten : 0 ≤ points → IsContained (outcome s).1 → Decimal.isWritable points = false →
    (grade check points description outcome s).1 = .error Decimal.tooLong ∧
    AddsGrade check points description (succeeds (outcome s).1) [] s (outcome s).2
      (grade check points description outcome s).2
  refused : points < 0 ∨ ¬IsContained (outcome s).1 →
    (∃ f, (grade check points description outcome s).1 = .error f) ∧
    Untouched s (grade check points description outcome s).2

theorem gradesOutcome (hs : s.IsOpen) (ht : Untouched s (outcome s).2) :
    GradesOutcome check points description outcome s :=
  ⟨fun hp hr => grade_of_isContained hs hp hr ht, fun hp hr => grade_of_not_isWritable hs hp hr ht,
    grade_of_not_isContained ht⟩

end Outcome

/-- The cases, of which the first has the number `n`, are evaluated one after the other, and all of
them hold: the session after them. -/
inductive HoldsAll (holds : Nat → Value → Session → Answer Value) :
    Nat → List Value → Session → Session → Prop
  | nil (n : Nat) (s : Session) : HoldsAll holds n [] s s
  | cons {n : Nat} {v : Value} {vs : List Value} {s t : Session}
    (head : succeeds (holds n v s).1 = true)
    (tail : HoldsAll holds (n + 1) vs (holds n v s).2 t) : HoldsAll holds n (v :: vs) s t

section Cases

variable {check : String} {points : Int} {description : String} {cases : Cases}
  {holds : Nat → Value → Session → Answer Value} {explain : Value → Session → Answer Value}
  {broken : Option Failure} {n : Nat} {front rest items : List Value} {s t : Session}

theorem HoldsAll.untouched (h : HoldsAll holds n items s t)
    (hh : ∀ n v s, Untouched s (holds n v s).2) : Untouched s t := by
  induction h with
  | nil n s => exact .refl s
  | cons _ _ ih => exact (hh _ _ _).trans ih

/-- An evaluation passes over the cases that hold. -/
theorem HoldsAll.evaluateCases_append (h : HoldsAll holds n front s t) :
    evaluateCases description holds explain broken n (front ++ rest) s =
      evaluateCases description holds explain broken (n + front.length) rest t := by
  induction h with
  | nil n s => rfl
  | @cons n v vs s t head tail ih =>
    rw [List.cons_append, evaluateCases]
    simp only [resolve_of_isContained (isContained_of_succeeds head), head]
    rw [ih, List.length_cons, Nat.add_assoc, Nat.add_comm 1]

theorem HoldsAll.evaluateCases_eq (h : HoldsAll holds 0 items s t) :
    evaluateCases description holds explain broken 0 items s =
      evaluateCases description holds explain broken items.length [] t := by
  have hall : evaluateCases description holds explain broken 0 (items ++ []) s =
      evaluateCases description holds explain broken (0 + items.length) [] t :=
    h.evaluateCases_append
  rw [List.append_nil, Nat.zero_add] at hall
  exact hall

/-- All cases hold, or there is a first one that does not. -/
theorem exists_holdsAll (holds : Nat → Value → Session → Answer Value) (n : Nat)
    (items : List Value) (s : Session) :
    (∃ t, HoldsAll holds n items s t) ∨
      ∃ front v rest t, items = front ++ v :: rest ∧ HoldsAll holds n front s t ∧
        succeeds (holds (n + front.length) v t).1 = false := by
  induction items generalizing n s with
  | nil => exact .inl ⟨s, .nil n s⟩
  | cons v vs ih =>
    cases hv : succeeds (holds n v s).1 with
    | false => exact .inr ⟨[], v, vs, s, rfl, .nil n s, hv⟩
    | true =>
      rcases ih (n + 1) (holds n v s).2 with ⟨t, ht⟩ | ⟨front, w, rest, t, rfl, hfront, hw⟩
      · exact .inl ⟨t, .cons hv ht⟩
      · refine .inr ⟨v :: front, w, rest, t, rfl, .cons hv hfront, ?_⟩
        rw [List.length_cons, ← Nat.add_assoc, Nat.add_right_comm]
        exact hw

/-- All cases hold, and there is an end of them. -/
structure Passes (cases : Cases) (holds : Nat → Value → Session → Answer Value) (s t : Session) :
    Prop where
  ended : cases.broken = none
  all : HoldsAll holds 0 cases.items s t

/-- The cases in front of `v` hold, and `v` does not; it is explained, and the comment says so. -/
structure FailsAt (description : String) (cases : Cases)
    (holds : Nat → Value → Session → Answer Value) (explain : Value → Session → Answer Value)
    (front : List Value) (v : Value) (comment : String) (s t : Session) : Prop where
  split : ∃ rest, cases.items = front ++ v :: rest
  first : ∃ u detail, HoldsAll holds 0 front s u ∧ IsContained (holds front.length v u).1 ∧
    succeeds (holds front.length v u).1 = false ∧
    explain v (holds front.length v u).2 = (.ok detail, t) ∧
    caseText description detail (complaint (holds front.length v u).1) = .ok comment

/-- The evaluation fails: going on to the next case does, or a case is not contained, or explaining
one that does not hold fails, or what the explanation gives has no text. -/
inductive Breaks (description : String) (cases : Cases)
    (holds : Nat → Value → Session → Answer Value) (explain : Value → Session → Answer Value)
    (s : Session) : Prop
  | iteration {t : Session} {f : Failure} (hall : HoldsAll holds 0 cases.items s t)
    (h : cases.broken = some f)
  | escape {front rest : List Value} {v : Value} {t : Session}
    (hitems : cases.items = front ++ v :: rest) (hfront : HoldsAll holds 0 front s t)
    (h : ¬IsContained (holds front.length v t).1)
  | explanation {front rest : List Value} {v : Value} {t u : Session} {e : Except Failure Value}
    {f : Failure} (hitems : cases.items = front ++ v :: rest) (hfront : HoldsAll holds 0 front s t)
    (hcontained : IsContained (holds front.length v t).1)
    (hfalse : succeeds (holds front.length v t).1 = false)
    (hexplain : explain v (holds front.length v t).2 = (e, u))
    (h : (e.bind fun detail =>
      caseText description detail (complaint (holds front.length v t).1)) = .error f)

/-- A call for the grade of cases gives the grade, or it fails. -/
structure GradesCases (check : String) (points : Int) (description : String) (cases : Cases)
    (holds : Nat → Value → Session → Answer Value) (explain : Value → Session → Answer Value)
    (s : Session) : Prop where
  passed : 0 ≤ points → Decimal.isWritable points = true → ∀ t, Passes cases holds s t →
    (gradeEach check points description cases holds explain s).1 =
      .ok ⟨true, cases.items.length⟩ ∧
    AddsGrade check points description true [gradeLine (toString points) description true] s t
      (gradeEach check points description cases holds explain s).2
  /-- The case that does not hold is commented on in front of the line about the grade. -/
  failed : 0 ≤ points → Decimal.isWritable points = true → ∀ front v comment t,
    FailsAt description cases holds explain front v comment s t →
    (gradeEach check points description cases holds explain s).1 = .ok ⟨false, front.length + 1⟩ ∧
    AddsGrade check points description false
      [{ kind := .comment, text := comment }, gradeLine (toString points) description false] s t
      (gradeEach check points description cases holds explain s).2
  /-- Only for points with too many digits there is a grade without a line, and the call fails. -/
  unwritten : 0 ≤ points → Decimal.isWritable points = false →
    (∀ t, Passes cases holds s t →
      (gradeEach check points description cases holds explain s).1 = .error Decimal.tooLong ∧
      AddsGrade check points description true [] s t
        (gradeEach check points description cases holds explain s).2) ∧
    ∀ front v comment t, FailsAt description cases holds explain front v comment s t →
      (gradeEach check points description cases holds explain s).1 = .error Decimal.tooLong ∧
      AddsGrade check points description false [{ kind := .comment, text := comment }] s t
        (gradeEach check points description cases holds explain s).2
  refused : points < 0 ∨ Breaks description cases holds explain s →
    (∃ f, (gradeEach check points description cases holds explain s).1 = .error f) ∧
    Untouched s (gradeEach check points description cases holds explain s).2
  /-- There is no other way for an evaluation to go. -/
  decided : (∃ t, Passes cases holds s t) ∨
    (∃ front v comment t, FailsAt description cases holds explain front v comment s t) ∨
    Breaks description cases holds explain s

theorem passes_or_failsAt_or_breaks (description : String) (cases : Cases)
    (holds : Nat → Value → Session → Answer Value) (explain : Value → Session → Answer Value)
    (s : Session) : (∃ t, Passes cases holds s t) ∨
    (∃ front v comment t, FailsAt description cases holds explain front v comment s t) ∨
    Breaks description cases holds explain s := by
  rcases exists_holdsAll holds 0 cases.items s with
    ⟨t, hall⟩ | ⟨front, v, rest, t, hitems, hfront, hfalse⟩
  · cases hbroken : cases.broken with
    | none => exact .inl ⟨t, hbroken, hall⟩
    | some f => exact .inr (.inr (.iteration hall hbroken))
  · rw [Nat.zero_add] at hfalse
    by_cases hcontained : IsContained (holds front.length v t).1
    · obtain ⟨e, u, hexplain⟩ : ∃ e u, explain v (holds front.length v t).2 = (e, u) := ⟨_, _, rfl⟩
      cases htext : e.bind fun detail =>
          caseText description detail (complaint (holds front.length v t).1) with
      | ok comment =>
        obtain ⟨detail, rfl, hcomment⟩ := Traversal.bind_eq_ok_iff.mp htext
        exact .inr (.inl ⟨front, v, comment, u, ⟨rest, hitems⟩, t, detail, hfront, hcontained,
          hfalse, hexplain, hcomment⟩)
      | error f => exact .inr (.inr (.explanation hitems hfront hcontained hfalse hexplain htext))
    · exact .inr (.inr (.escape hitems hfront hcontained))

variable (hh : ∀ n v s, Untouched s (holds n v s).2) (he : ∀ v s, Untouched s (explain v s).2)

include hh he in
theorem HoldsAll.untouched_explain (h : HoldsAll holds n front s t) (m : Nat) (v : Value) :
    Untouched s (explain v (holds m v t).2).2 :=
  ((h.untouched hh).trans (hh m v t)).trans (he v (holds m v t).2)

theorem Passes.evaluateCases_eq (h : Passes cases holds s t) :
    evaluateCases description holds explain cases.broken 0 cases.items s =
      (.ok ⟨true, cases.items.length⟩, t) := by
  rw [h.all.evaluateCases_eq]
  simp only [evaluateCases, h.ended]

theorem FailsAt.evaluateCases_eq {v : Value} {comment : String}
    (h : FailsAt description cases holds explain front v comment s t) :
    evaluateCases description holds explain cases.broken 0 cases.items s =
      (.ok ⟨false, front.length + 1⟩, t.extend (commented comment none t.source)) := by
  obtain ⟨rest, hitems⟩ := h.split
  obtain ⟨u, detail, hfront, hcontained, hfalse, hexplain, hcomment⟩ := h.first
  have htext : ((Except.ok detail : Except Failure Value).bind fun detail =>
      caseText description detail (complaint (holds front.length v u).1)) = .ok comment := hcomment
  rw [hitems, hfront.evaluateCases_append, Nat.zero_add, evaluateCases]
  simp only [resolve_of_isContained hcontained, hfalse, hexplain, htext,
    Session.comment_eq_extend]

include hh he in
theorem FailsAt.untouched {v : Value} {comment : String}
    (h : FailsAt description cases holds explain front v comment s t) : Untouched s t := by
  obtain ⟨u, detail, hfront, -, -, hexplain, -⟩ := h.first
  have hu := hfront.untouched_explain hh he front.length v
  rw [hexplain] at hu
  exact hu

section Awarded

variable (hs : s.IsOpen) (hp : 0 ≤ points)

include hs hp

include hh in
theorem gradeEach_of_passes (h : Passes cases holds s t) (hw : Decimal.isWritable points = true) :
    (gradeEach check points description cases holds explain s).1 =
      .ok ⟨true, cases.items.length⟩ ∧
    AddsGrade check points description true [gradeLine (toString points) description true] s t
      (gradeEach check points description cases holds explain s).2 := by
  have ht : Untouched s t := h.all.untouched hh
  have haward := award_of_isWritable (ht.isOpen hs) hp true check description hw
  unfold Setting.gradeEach
  simp only [Int.not_lt.mpr hp, if_false, h.evaluateCases_eq, haward, true_and]
  exact ht.addsGrade check points description true _

include hh in
theorem gradeEach_of_passes_of_not_isWritable (h : Passes cases holds s t)
    (hw : Decimal.isWritable points = false) :
    (gradeEach check points description cases holds explain s).1 = .error Decimal.tooLong ∧
    AddsGrade check points description true [] s t
      (gradeEach check points description cases holds explain s).2 := by
  have ht : Untouched s t := h.all.untouched hh
  have haward := award_of_not_isWritable (ht.isOpen hs) hp true check description hw
  unfold Setting.gradeEach
  simp only [Int.not_lt.mpr hp, if_false, h.evaluateCases_eq, haward, true_and]
  exact ht.addsGrade check points description true _

variable {v : Value} {comment : String}
  (h : FailsAt description cases holds explain front v comment s t)

include hh he h

theorem gradeEach_of_failsAt (hw : Decimal.isWritable points = true) :
    (gradeEach check points description cases holds explain s).1 = .ok ⟨false, front.length + 1⟩ ∧
    AddsGrade check points description false
      [{ kind := .comment, text := comment }, gradeLine (toString points) description false] s t
      (gradeEach check points description cases holds explain s).2 := by
  have ht : Untouched s t := h.untouched hh he
  have hopen : (t.extend (commented comment none t.source)).IsOpen := ht.isOpen hs
  have haward := award_of_isWritable hopen hp false check description hw
  unfold Setting.gradeEach
  simp only [Int.not_lt.mpr hp, if_false, h.evaluateCases_eq, haward, true_and]
  -- Here the comment is in front, and the grade follows on it.
  rw [Session.extend_extend]
  exact ht.addsGrade check points description false _

theorem gradeEach_of_failsAt_of_not_isWritable (hw : Decimal.isWritable points = false) :
    (gradeEach check points description cases holds explain s).1 = .error Decimal.tooLong ∧
    AddsGrade check points description false [{ kind := .comment, text := comment }] s t
      (gradeEach check points description cases holds explain s).2 := by
  have ht : Untouched s t := h.untouched hh he
  have hopen : (t.extend (commented comment none t.source)).IsOpen := ht.isOpen hs
  have haward := award_of_not_isWritable hopen hp false check description hw
  unfold Setting.gradeEach
  simp only [Int.not_lt.mpr hp, if_false, h.evaluateCases_eq, haward, true_and]
  rw [Session.extend_extend]
  exact ht.addsGrade check points description false _

end Awarded

include hh he in
/-- A failure of the evaluation ends it, and nothing was written up to there. -/
theorem Breaks.evaluateCases_eq (h : Breaks description cases holds explain s) :
    ∃ f t, evaluateCases description holds explain cases.broken 0 cases.items s = (.error f, t) ∧
      Untouched s t := by
  cases h with
  | @iteration t f hall h =>
    rw [hall.evaluateCases_eq, h]
    exact ⟨f, t, rfl, hall.untouched hh⟩
  | @escape front rest v t hitems hfront h =>
    obtain ⟨f, hr⟩ := exists_resolve_of_not_isContained h
    rw [hitems, hfront.evaluateCases_append, Nat.zero_add, evaluateCases]
    simp only [hr]
    exact ⟨f, _, rfl, (hfront.untouched hh).trans (hh front.length v t)⟩
  | @explanation front rest v t u e f hitems hfront hcontained hfalse hexplain h =>
    rw [hitems, hfront.evaluateCases_append, Nat.zero_add, evaluateCases]
    simp only [resolve_of_isContained hcontained, hfalse, hexplain, h]
    have hu := hfront.untouched_explain hh he front.length v
    rw [hexplain] at hu
    exact ⟨f, u, rfl, hu⟩

include hh he in
theorem gradesCases (hs : s.IsOpen) :
    GradesCases check points description cases holds explain s := by
  refine ⟨fun hp hw t h => gradeEach_of_passes hh hs hp h hw,
    fun hp hw front v comment t h => gradeEach_of_failsAt hh he hs hp h hw,
    fun hp hw => ⟨fun t h => gradeEach_of_passes_of_not_isWritable hh hs hp h hw,
      fun front v comment t h => gradeEach_of_failsAt_of_not_isWritable hh he hs hp h hw⟩,
    fun h => ?_,
    passes_or_failsAt_or_breaks description cases holds explain s⟩
  unfold Setting.gradeEach
  by_cases hp : points < 0
  · simp only [hp, if_true]
    exact ⟨⟨_, rfl⟩, .refl s⟩
  · obtain ⟨f, t, heval, ht⟩ := (h.resolve_left hp).evaluateCases_eq hh he
    simp only [hp, if_false, heval]
    exact ⟨⟨f, rfl⟩, ht⟩

end Cases

end Setting

end Grader
