import Grader.Grading.Run
import Grader.Proofs.Failure
import Grader.Proofs.Grading.Extension
import Grader.Proofs.Grading.Kept

/-! The turns of checks in a run. A turn is what the body of one check ends with and what it adds,
read off a fresh session; the turns of a run follow each other through the source of random data
alone. `withReport_of_contained` gives the whole result of a run from its turns, as far as the
summary can be written. -/

namespace Grader

/-- The turn of a check: what its body ends with, and what it has added by then. -/
structure Turn where
  check : Check Script
  answer : Except Failure Value
  added : Extension

namespace Turn

def isFailed (t : Turn) : Bool :=
  match t.answer with
  | .ok _ => false
  | .error _ => true

/-- The failure that leaves the run at this turn: that of the body, if it ends the whole process, or
the one that describing it raises. -/
def escaped (t : Turn) : Option Failure :=
  match t.answer with
  | .ok _ => none
  | .error f =>
    match f.contained with
    | .ok _ => none
    | .error g => some g

/-- The run ends at this turn. -/
def isFatal (t : Turn) : Bool := t.escaped.isSome

/-- The grades of a check: those that its body recorded, and one more if it failed. -/
def grades (t : Turn) : List Grade :=
  t.added.grades ++ if t.isFailed then [Run.failedGrade t.check] else []

/-- The line of a check that failed by a failure that is described. -/
def complaint (t : Turn) : List Line :=
  match t.answer with
  | .ok _ => []
  | .error f =>
    match f.contained with
    | .ok description => [Run.failedLine t.check description]
    | .error _ => []

def lines (t : Turn) (number : Nat) : List Line :=
  Run.checkLine number t.check :: t.added.lines ++ t.complaint

/-- What the check with a number adds to a session. -/
def block (t : Turn) (number : Nat) : Extension :=
  ⟨t.grades, t.lines number, t.added.notes, t.added.source⟩

@[simp] theorem block_source (t : Turn) (n : Nat) : (t.block n).source = t.added.source := rfl

theorem escaped_eq_some_iff {t : Turn} {g : Failure} :
    t.escaped = some g ↔ ∃ f, t.answer = .error f ∧ f.contained = .error g := by
  unfold escaped
  cases t.answer with
  | ok v => simp
  | error f => cases hf : f.contained <;> simp [hf]

theorem isFatal_iff {t : Turn} : t.isFatal = true ↔ ∃ g, t.escaped = some g :=
  Option.isSome_iff_exists

/-- A turn at which the run does not end has succeeded, or failed by a failure that is described. -/
theorem contained_of_isFatal {t : Turn} (h : t.isFatal = false) {f : Failure}
    (ha : t.answer = .error f) : ∃ description, f.contained = .ok description := by
  cases hf : f.contained with
  | ok description => exact ⟨description, rfl⟩
  | error g =>
    have hescaped : t.escaped = some g := escaped_eq_some_iff.mpr ⟨f, ha, hf⟩
    rw [isFatal_iff.mpr ⟨g, hescaped⟩] at h
    cases h

def failedNames (ts : List Turn) : List String := (ts.filter isFailed).map (·.check.name)

/-- What turns add to a session, the first of which has the number `n`. -/
def blocks (n : Nat) (source : Twister) : List Turn → Extension
  | [] => { source }
  | t :: ts => (t.block n).append (blocks (n + 1) t.added.source ts)

theorem failedNames_cons (t : Turn) (ts : List Turn) :
    failedNames (t :: ts) = failedNames [t] ++ failedNames ts := by
  unfold failedNames
  rw [← List.map_append, ← List.filter_append, List.singleton_append]

theorem blocks_grades (n : Nat) (source : Twister) (ts : List Turn) :
    (blocks n source ts).grades = ts.flatMap grades := by
  induction ts generalizing n source with
  | nil => rfl
  | cons t ts ih => rw [List.flatMap_cons, ← ih (n + 1) t.added.source]; rfl

theorem blocks_notes (n : Nat) (source : Twister) (ts : List Turn) :
    (blocks n source ts).notes = ts.flatMap (·.added.notes) := by
  induction ts generalizing n source with
  | nil => rfl
  | cons t ts ih => rw [List.flatMap_cons, ← ih (n + 1) t.added.source]; rfl

theorem blocks_lines (n : Nat) (source : Twister) (ts : List Turn) :
    (blocks n source ts).lines = (ts.zipIdx n).flatMap fun (t, number) => t.lines number := by
  induction ts generalizing n source with
  | nil => rfl
  | cons t ts ih =>
    rw [List.zipIdx_cons, List.flatMap_cons, ← ih (n + 1) t.added.source]
    rfl

end Turn

/-- A session that has nothing but a source of random data. -/
def Session.fresh (source : Twister) : Session := { score := ⟨1, by decide, [], 0, none⟩, source }

namespace Setting

/-- The turn of a check on its own. -/
def turn (c : Setting) (check : Check Script) (source : Twister) : Turn :=
  let (answer, s) := c.play check.name check.body (Session.fresh source)
  ⟨check, answer, ⟨s.score.grades, s.lines, s.notes, s.source⟩⟩

/-- The turns of checks, one after the other, up to the first at which the run ends. -/
def turns (c : Setting) : Twister → List (Check Script) → List Turn
  | _, [] => []
  | source, check :: rest =>
    let t := c.turn check source
    t :: if t.isFatal then [] else turns c t.added.source rest

@[simp] theorem turn_check (c : Setting) (check : Check Script) (source : Twister) :
    (c.turn check source).check = check := rfl

/-- In every open session, the body of a check does what its turn says. -/
theorem play_eq_turn (c : Setting) (check : Check Script) {s : Session} (h : s.IsOpen) :
    c.play check.name check.body s =
      ((c.turn check s.source).answer, s.extend (c.turn check s.source).added) := by
  obtain ⟨a, x, hx⟩ := c.play_framed check.name check.body s.source
  have hfresh : c.turn check s.source = ⟨check, a, x⟩ := by
    unfold turn
    rw [hx (Session.fresh s.source) rfl rfl]
    simp only [Session.extend, Session.fresh, List.nil_append]
  rw [hfresh, hx s h rfl]

/-- Unless the run ends at a turn, every check has its turn, in order. -/
theorem map_check_turns (c : Setting) (source : Twister) (checks : List (Check Script))
    (h : ∀ t ∈ c.turns source checks, t.isFatal = false) :
    (c.turns source checks).map (·.check) = checks := by
  induction checks generalizing source with
  | nil => rfl
  | cons check rest ih =>
    have ht : (c.turn check source).isFatal = false := h _ List.mem_cons_self
    simp only [turns, ht, Bool.false_eq_true, ↓reduceIte, List.mem_cons] at h ⊢
    rw [List.map_cons, ih _ (fun t ht => h t (Or.inr ht)), turn_check]

/-- Every turn of a run is that of one of its checks, from some source. -/
theorem exists_of_mem_turns (c : Setting) (source : Twister) (checks : List (Check Script))
    {t : Turn} (ht : t ∈ c.turns source checks) :
    ∃ check ∈ checks, ∃ source', t = c.turn check source' := by
  induction checks generalizing source with
  | nil => exact absurd ht List.not_mem_nil
  | cons check rest ih =>
    simp only [turns, List.mem_cons] at ht
    rcases ht with rfl | ht
    · exact ⟨check, List.mem_cons_self, source, rfl⟩
    · split at ht
      · exact absurd ht List.not_mem_nil
      · obtain ⟨other, hmem, source', rfl⟩ := ih _ ht
        exact ⟨other, List.mem_cons_of_mem _ hmem, source', rfl⟩

theorem inRange_kept (check : String) :
    Session.Kept check fun s => ∀ g ∈ s.score.grades, g.InRange where
  comment _ _ _ h := h
  note _ _ h := h
  draw _ _ h := h
  award _ _ _ _ hrange _ h := List.forall_mem_append.mpr ⟨h, List.forall_mem_singleton.mpr hrange⟩
  unwritten _ _ hrange _ h := List.forall_mem_append.mpr ⟨h, List.forall_mem_singleton.mpr hrange⟩

/-- The points of all grades of a turn are in range. -/
theorem inRange_turn (c : Setting) (check : Check Script) (source : Twister) :
    ∀ g ∈ (c.turn check source).grades, g.InRange := by
  have hadded : ∀ g ∈ (c.turn check source).added.grades, g.InRange :=
    c.play_keeps (inRange_kept check.name) check.body (Session.fresh source)
      fun g hg => absurd hg List.not_mem_nil
  unfold Turn.grades
  refine List.forall_mem_append.mpr ⟨hadded, ?_⟩
  split
  · exact List.forall_mem_singleton.mpr ⟨le_rfl, le_rfl⟩
  · exact List.forall_mem_nil _

end Setting

namespace Run

theorem runCheck_of_escaped (c : Setting) (n : Nat) (check : Check Script) {s : Session}
    (h : s.IsOpen) {g : Failure} (he : (c.turn check s.source).escaped = some g) :
    runCheck c n check s = .error g := by
  obtain ⟨f, ha, hf⟩ := Turn.escaped_eq_some_iff.mp he
  have hplay := c.play_eq_turn check (s := s.emit (checkLine n check)) h
  have hsource : (s.emit (checkLine n check)).source = s.source := rfl
  simp only [runCheck, hplay, hsource, ha, hf, bind, Except.bind]

theorem runCheck_of_contained (c : Setting) (n : Nat) (check : Check Script) {s : Session}
    (h : s.IsOpen) (hf : (c.turn check s.source).isFatal = false) :
    runCheck c n check s = .ok (Turn.failedNames [c.turn check s.source],
      s.extend ((c.turn check s.source).block n)) := by
  have hplay := c.play_eq_turn check (s := s.emit (checkLine n check)) h
  have hsource : (s.emit (checkLine n check)).source = s.source := rfl
  rw [hsource] at hplay
  have hcheck := c.turn_check check s.source
  generalize c.turn check s.source = t at hplay hf hcheck ⊢
  cases ha : t.answer with
  | ok v =>
    rw [runCheck, hplay, ha]
    simp only [Turn.failedNames, Turn.isFailed, Turn.block, Turn.grades, Turn.lines,
      Turn.complaint, ha, hcheck, Session.extend, Session.emit, Bool.false_eq_true, ↓reduceIte,
      not_false_eq_true, List.filter_cons_of_neg, List.filter_nil, List.map_nil, List.append_nil,
      List.append_assoc, List.cons_append, List.nil_append]
  | error f =>
    obtain ⟨description, hdescription⟩ := Turn.contained_of_isFatal hf ha
    -- The grade of a failed check is zero of zero, which an open session always takes.
    have hrecord := Session.record_of_isOpen
      (s := (s.emit (checkLine n check)).extend t.added) h (g := failedGrade check)
      (Int.le_refl 0) (Int.le_refl 0)
    rw [runCheck, hplay, ha]
    simp only [hdescription, bind, Except.bind]
    rw [hrecord]
    simp only [pure, Except.pure, Turn.failedNames, Turn.isFailed, Turn.block, Turn.grades,
      Turn.lines, Turn.complaint, ha, hcheck, hdescription, ↓reduceIte, Session.extend,
      Session.emit, List.filter_cons_of_pos, List.filter_nil, List.map_cons, List.map_nil,
      List.append_nil, List.append_assoc, List.cons_append, List.nil_append]

/-- The checks of a run add the blocks of their turns. -/
theorem runChecks_of_contained (c : Setting) (n : Nat) (checks : List (Check Script)) {s : Session}
    (h : s.IsOpen) (hf : ∀ t ∈ c.turns s.source checks, t.isFatal = false) :
    runChecks c n checks s = .ok (Turn.failedNames (c.turns s.source checks),
      s.extend (Turn.blocks n s.source (c.turns s.source checks))) := by
  -- A block leaves the session open and its source with the turn, so that the rest starts as the
  -- turns of the rest do.
  induction checks generalizing n s with
  | nil =>
    simp only [runChecks, Setting.turns, Turn.blocks, Session.extend_nothing]
    rfl
  | cons check rest ih =>
    have ht : (c.turn check s.source).isFatal = false := hf _ List.mem_cons_self
    simp only [Setting.turns, ht, Bool.false_eq_true, ↓reduceIte, List.mem_cons] at hf ⊢
    have hrest := ih (n + 1) (s := s.extend ((c.turn check s.source).block n)) h
      (fun t h => hf t (Or.inr h))
    rw [Session.extend_source, Turn.block_source] at hrest
    simp only [runChecks, runCheck_of_contained c n check h ht, bind, Except.bind]
    rw [hrest, Turn.blocks, ← Session.extend_extend,
      Turn.failedNames_cons _ (c.turns (c.turn check s.source).added.source rest)]
    rfl

/-- What escapes at a turn leaves the run. -/
theorem runChecks_of_escaped (c : Setting) (n : Nat) (checks : List (Check Script)) {s : Session}
    (h : s.IsOpen) {t : Turn} (ht : t ∈ c.turns s.source checks) {g : Failure}
    (he : t.escaped = some g) : runChecks c n checks s = .error g := by
  induction checks generalizing n s with
  | nil => simp [Setting.turns] at ht
  | cons check rest ih =>
    simp only [Setting.turns, List.mem_cons] at ht
    cases hfirst : (c.turn check s.source).isFatal with
    | true =>
      simp only [hfirst, ↓reduceIte, List.not_mem_nil, or_false] at ht
      subst ht
      simp only [runChecks, runCheck_of_escaped c n check h he, bind, Except.bind]
    | false =>
      simp only [hfirst, Bool.false_eq_true, ↓reduceIte] at ht
      rcases ht with rfl | ht
      · rw [Turn.isFatal_iff.mpr ⟨g, he⟩] at hfirst
        cases hfirst
      · have hrest := ih (n + 1) (s := s.extend ((c.turn check s.source).block n)) h ht
        simp only [runChecks, runCheck_of_contained c n check h hfirst, bind, Except.bind, hrest]

def opened (p : Policy) (r : Report) (source : Twister) : Session where
  score := ⟨p.maxScore, p.maxScore_pos, [], r.deduction, none⟩
  lines := reportLines p r
  source := source

theorem opening_eq (p : Policy) (r : Report) (source : Twister) :
    opening p r source = .ok (opened p r source) := by
  have hd : ¬((r.deduction : Int) < 0) := by omega
  simp only [opening, Score.deduct, Score.isSettled, Option.isSome_none, Bool.false_eq_true, hd,
    ↓reduceIte, Int.toNat_natCast, Nat.zero_add, opened]

def finalScore (p : Policy) (r : Report) (grades : List Grade) : Int :=
  if r.integrityViolated && p.zeroOnCheat then 0
  else clamp ((⟨p.maxScore, p.maxScore_pos, grades, r.deduction, none⟩ : Score).raw) 0 p.maxScore

/-- The summary of a run whose checks have had their turns, if it can be written. -/
def summaryOf (p : Policy) (r : Report) (ts : List Turn) : Except Failure String :=
  let grades := ts.flatMap Turn.grades
  let final := finalScore p r grades
  summary ⟨p.maxScore, p.maxScore_pos, grades, r.deduction, some final⟩ r final

/-- The result of a run whose checks have had their turns, given the text of its summary. -/
def resultOf (p : Policy) (r : Report) (ts : List Turn) (text : String) : Result :=
  let grades := ts.flatMap Turn.grades
  let final := finalScore p r grades
  let score : Score := ⟨p.maxScore, p.maxScore_pos, grades, r.deduction, some final⟩
  { score := final
    maximum := p.maxScore
    raw := score.raw
    lines := reportLines p r ++ (ts.zipIdx 1).flatMap (fun (t, number) => t.lines number) ++
      [{ kind := .summary, text }]
    grades
    report := r
    failed := Turn.failedNames ts
    notes := ts.flatMap (·.added.notes) }

theorem conclude_eq (p : Policy) (r : Report) (source : Twister) (ts : List Turn) :
    conclude p r (Turn.failedNames ts) ((opened p r source).extend (Turn.blocks 1 source ts)) =
      (summaryOf p r ts).map (resultOf p r ts) := by
  simp only [conclude, Score.settle, Score.isSettled, opened, Session.extend, Session.emit,
    Option.isSome_none, Bool.false_eq_true, ↓reduceIte, List.nil_append, Turn.blocks_grades,
    Turn.blocks_lines, Turn.blocks_notes, summaryOf, finalScore]
  rfl

def turnsOf (checks : List (Check Script)) (p : Policy) (units : List SourceUnit) (fs : Files)
    (source : Twister) : List Turn :=
  (Setting.mk p (Setting.byPath units) fs).turns source checks

theorem inRange_turnsOf (checks : List (Check Script)) (p : Policy) (units : List SourceUnit)
    (fs : Files) (source : Twister) :
    ∀ g ∈ (turnsOf checks p units fs source).flatMap Turn.grades, g.InRange := by
  intro g hg
  obtain ⟨t, ht, hg⟩ := List.mem_flatMap.mp hg
  obtain ⟨check, -, source', rfl⟩ := Setting.exists_of_mem_turns _ source checks ht
  exact Setting.inRange_turn _ check source' g hg

/-- A run that ends at no turn has the result of its turns, if its summary can be written. -/
theorem withReport_of_contained (checks : List (Check Script)) (p : Policy)
    (units : List SourceUnit) (fs : Files) (r : Report) (source : Twister)
    (h : ∀ t ∈ turnsOf checks p units fs source, t.isFatal = false) :
    withReport checks p units fs r source =
      (summaryOf p r (turnsOf checks p units fs source)).map
        (resultOf p r (turnsOf checks p units fs source)) := by
  have hrun := runChecks_of_contained (Setting.mk p (Setting.byPath units) fs) 1 checks
    (s := opened p r source) rfl h
  simp only [withReport, opening_eq, hrun, bind, Except.bind]
  exact conclude_eq p r source _

theorem withReport_of_escaped (checks : List (Check Script)) (p : Policy)
    (units : List SourceUnit) (fs : Files) (r : Report) (source : Twister) {t : Turn}
    (ht : t ∈ turnsOf checks p units fs source) {g : Failure} (he : t.escaped = some g) :
    withReport checks p units fs r source = .error g := by
  have hrun := runChecks_of_escaped (Setting.mk p (Setting.byPath units) fs) 1 checks
    (s := opened p r source) rfl ht he
  simp only [withReport, opening_eq, hrun, bind, Except.bind]

/-- A run that has a result has ended at no turn, and the result is that of its turns. -/
theorem withReport_eq_ok_iff {checks : List (Check Script)} {p : Policy} {units : List SourceUnit}
    {fs : Files} {r : Report} {source : Twister} {a : Result} :
    withReport checks p units fs r source = .ok a ↔
      (∀ t ∈ turnsOf checks p units fs source, t.isFatal = false) ∧
        ∃ text, summaryOf p r (turnsOf checks p units fs source) = .ok text ∧
          a = resultOf p r (turnsOf checks p units fs source) text := by
  by_cases h : ∀ t ∈ turnsOf checks p units fs source, t.isFatal = false
  · rw [withReport_of_contained checks p units fs r source h, Traversal.map_eq_ok_iff]
    exact (and_iff_right h).symm
  · refine iff_of_false ?_ fun hok => h hok.1
    push Not at h
    obtain ⟨t, ht, hfatal⟩ := h
    obtain ⟨g, hg⟩ := Turn.isFatal_iff.mp (Bool.of_not_eq_false hfatal)
    rw [withReport_of_escaped checks p units fs r source ht hg]
    exact nofun

end Run

end Grader
