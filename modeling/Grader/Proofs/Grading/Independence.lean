import Grader.Proofs.Engine.Catalogue
import Grader.Proofs.Grading.Strictness

/-! Checks that draw no random data. What such a check adds to a run is what it adds on its own, so
the other checks of the run, their order and their failures change nothing about it, and a result
does not depend on the order of the checks but in the order of its parts. -/

namespace Grader

/-- The draw takes nothing from the source: it ends in one way and leaves the source where it is. -/
def Draw.IsIdle {α : Type} (d : Draw α) : Prop :=
  ∃ r, ∀ source, d.run.run source = (r, source)

/-- The session with another source of random data. -/
def Session.withSource (s : Session) (source : Twister) : Session := { s with source }

/-- From this session on, the operation neither looks at the source of random data nor moves it. -/
def BlindAt {α : Type} (f : Session → Answer α) (s : Session) : Prop :=
  ∀ source, f (s.withSource source) = ((f s).1, (f s).2.withSource source)

/-- Two operations, the second of which depends on the answer of the first. -/
theorem BlindAt.bind {α β : Type} {s : Session} {f : Session → Answer α} (hf : BlindAt f s)
    (g : Except Failure α → Session → Answer β)
    (hg : BlindAt (g (f s).1) (f s).2) : BlindAt (fun s => g (f s).1 (f s).2) s := by
  intro source
  change g (f (s.withSource source)).1 (f (s.withSource source)).2 = _
  rw [hf source]
  exact hg source

namespace Setting

/-- Evaluating cases draws nothing: `still` says so of the predicate, and `explained` of the
explanation of the case that ends the evaluation. -/
def CasesUndrawn (holds : Nat → Value → Session → Answer Value)
    (still : Nat → Value → Session → Prop) (explained : Value → Session → Prop) :
    Nat → List Value → Session → Prop
  | _, [], _ => True
  | n, v :: rest, s =>
    still n v s ∧
      match resolve (holds n v s).1 with
      | .error _ => True
      | .ok (true, _) => CasesUndrawn holds still explained (n + 1) rest (holds n v s).2
      | .ok (false, _) => explained v (holds n v s).2

/-- Playing the script in the session draws nothing. Only what is reached counts: the branches that
other answers would lead to may draw. -/
def Undrawn (c : Setting) (check : String) : Script → Session → Prop
  | .done _, _ => True
  | .fail _, _ => True
  | .note label v next, s => Undrawn c check next (s.note ⟨check, label, v⟩)
  | .grading points description outcome next, s =>
    let after := grade check points description (c.play check outcome) s
    (0 ≤ points → Undrawn c check outcome s) ∧ Undrawn c check (next after.1) after.2
  | .gradingEach points description cases predicate explain next, s =>
    let holds (n : Nat) (v : Value) := c.play check (predicate n v)
    let after := gradeEach check points description cases holds
      (fun v => c.play check (explain v)) s
    (0 ≤ points → CasesUndrawn holds (fun n v => Undrawn c check (predicate n v))
      (fun v => Undrawn c check (explain v)) 0 cases.items s) ∧
      Undrawn c check (next after.1) after.2
  | .comment text position next, s => Undrawn c check next (s.comment text position)
  | .inspect t predicate next, s =>
    let after := c.examine t (fun u => c.play check (predicate u)) s
    (∀ u, c.target t = .ok u → u.parsable = true → Undrawn c check (predicate u) s) ∧
      Undrawn c check (next after.1) after.2
  | .unit name next, s => Undrawn c check (next (c.unit name)) s
  | .draw d next, s =>
    let (r, source) := d.run.run s.source
    d.IsIdle ∧ Undrawn c check (next r) { s with source }
  | .policy next, s => Undrawn c check (next c.policy) s
termination_by structural script => script

/-- The body of the check draws no random data, whatever run it is part of. -/
def NeverDraws (c : Setting) (check : Check Script) : Prop :=
  ∀ s : Session, s.IsOpen → c.Undrawn check.name check.body s

section Blind

variable {α : Type} {s : Session}

theorem blindAt_award (check : String) (points : Int) (description : String) (passed : Bool)
    (s : Session) : BlindAt (award check points description passed) s := by
  intro source
  unfold award Session.record Session.withSource
  cases s.score.addGrade _ with
  | error e => rfl
  | ok score => cases Decimal.spelled points <;> rfl

theorem blindAt_grade (check : String) {points : Int} (description : String)
    {outcome : Session → Answer Value} (h : 0 ≤ points → BlindAt outcome s) :
    BlindAt (grade check points description outcome) s := by
  intro source
  by_cases hp : points < 0
  · simp only [grade, hp, ↓reduceIte]
  have hs := h (by omega) source
  simp only [grade, hp, ↓reduceIte, hs]
  obtain ⟨r, t⟩ := outcome s
  cases resolve r with
  | error f => rfl
  | ok verdict =>
    obtain ⟨passed, complaint⟩ := verdict
    simp only [blindAt_award check points description passed t source]
    obtain ⟨answer, u⟩ := award check points description passed t
    cases answer with
    | error f => rfl
    | ok _ => cases complaint <;> rfl

theorem blindAt_evaluateCases (description : String)
    {holds : Nat → Value → Session → Answer Value} {explain : Value → Session → Answer Value}
    (broken : Option Failure) {still : Nat → Value → Session → Prop}
    {explained : Value → Session → Prop}
    (hh : ∀ n v s, still n v s → BlindAt (holds n v) s)
    (he : ∀ v s, explained v s → BlindAt (explain v) s) (items : List Value) (n : Nat)
    (h : CasesUndrawn holds still explained n items s) :
    BlindAt (evaluateCases description holds explain broken n items) s := by
  -- A case that holds leaves the session behind it for the next one, so the induction is for every
  -- session and every number.
  induction items generalizing n s with
  | nil =>
    intro source
    cases broken <;> rfl
  | cons v rest ih =>
    obtain ⟨hcase, hafter⟩ := h
    intro source
    have hs := hh n v s hcase source
    obtain ⟨r, t, ht⟩ : ∃ r t, holds n v s = (r, t) := ⟨_, _, rfl⟩
    rw [ht] at hs hafter
    simp only [evaluateCases, hs, ht]
    cases hr : resolve r with
    | error f => rfl
    | ok verdict =>
      obtain ⟨passed, complaint⟩ := verdict
      simp only [hr] at hafter
      cases passed with
      | true => exact ih (n + 1) hafter source
      | false =>
        have hd := he v t hafter source
        obtain ⟨d, u, hu⟩ : ∃ d u, explain v t = (d, u) := ⟨_, _, rfl⟩
        rw [hu] at hd
        simp only [hd, hu]
        cases d.bind fun detail => caseText description detail complaint <;> rfl

theorem blindAt_gradeEach (check : String) {points : Int} (description : String) (cases : Cases)
    {holds : Nat → Value → Session → Answer Value} {explain : Value → Session → Answer Value}
    (h : 0 ≤ points →
      BlindAt (evaluateCases description holds explain cases.broken 0 cases.items) s) :
    BlindAt (gradeEach check points description cases holds explain) s := by
  intro source
  by_cases hp : points < 0
  · simp only [gradeEach, hp, ↓reduceIte]
  have hs := h (by omega) source
  simp only [gradeEach, hp, ↓reduceIte, hs]
  obtain ⟨r, t⟩ := evaluateCases description holds explain cases.broken 0 cases.items s
  cases r with
  | error f => rfl
  | ok outcome =>
    simp only [blindAt_award check points description outcome.passed t source]
    obtain ⟨answer, u⟩ := award check points description outcome.passed t
    cases answer <;> rfl

theorem blindAt_examine (c : Setting) (t : Target) {holds : SourceUnit → Session → Answer Value}
    (h : ∀ u, c.target t = .ok u → u.parsable = true → BlindAt (holds u) s) :
    BlindAt (c.examine t holds) s := by
  intro source
  unfold examine
  cases ht : c.target t with
  | error f => rfl
  | ok u =>
    cases hu : u.parsable with
    | false =>
      simp only [hu, Bool.false_eq_true, ↓reduceIte]
      rfl
    | true =>
      simp only [hu, ↓reduceIte, h u ht hu source]
      obtain ⟨r, t⟩ := holds u s
      cases r with
      | ok v => rfl
      | error f =>
        simp only
        cases f.handled <;> rfl

end Blind

/-- A script that draws nothing in a session answers without the source of random data. -/
theorem blindAt_play (c : Setting) (check : String) (script : Script) (s : Session)
    (h : c.Undrawn check script s) : BlindAt (c.play check script) s := by
  induction script generalizing s with
  | done v => exact fun _ => rfl
  | fail f => exact fun _ => rfl
  | note label v next ih => exact fun source => ih _ h source
  | grading points description outcome next iho ihn =>
    exact (blindAt_grade check description fun hp => iho s (h.1 hp)).bind
      (fun r => c.play check (next r)) (ihn _ _ h.2)
  | gradingEach points description cases predicate explain next ihp ihe ihn =>
    have hcases (hp : 0 ≤ points) := blindAt_evaluateCases description cases.broken
      (fun n v s => ihp n v s) (fun v s => ihe v s) cases.items 0 (h.1 hp)
    exact (blindAt_gradeEach check description cases hcases).bind
      (fun r => c.play check (next r)) (ihn _ _ h.2)
  | comment text position next ih => exact fun source => ih _ h source
  | inspect t predicate next ihp ihn =>
    have hholds (u : SourceUnit) (ht : c.target t = .ok u) (hu : u.parsable = true) :=
      ihp u s (h.1 u ht hu)
    exact (blindAt_examine c t hholds).bind
      (fun r => c.play check (next r)) (ihn _ _ h.2)
  | unit name next ih => exact fun source => ih _ s h source
  | draw d next ih =>
    -- The draw leaves every source where it is, so that the other one is still there behind it.
    have h : d.IsIdle ∧ c.Undrawn check (next (d.run.run s.source).1)
        { s with source := (d.run.run s.source).2 } := h
    obtain ⟨⟨r, hr⟩, hnext⟩ := h
    rw [hr s.source] at hnext
    intro source
    have hafter := ih r s hnext source
    simp only [play, Session.withSource, hr] at hafter ⊢
    exact hafter
  | policy next ih => exact fun source => ih _ s h source

end Setting

namespace Turn

/-- The turn with another source of random data behind it. -/
def withSource (t : Turn) (source : Twister) : Turn := { t with added := { t.added with source } }

/-- The lines of a turn but the first, which holds the number of the check. -/
def remarks (t : Turn) : List Line := t.added.lines ++ t.complaint

theorem lines_eq (t : Turn) (number : Nat) :
    t.lines number = Run.checkLine number t.check :: t.remarks := rfl

end Turn

namespace Setting

variable {c : Setting}

theorem turn_withSource {check : Check Script} (h : c.NeverDraws check) (source source' : Twister) :
    c.turn check source' = (c.turn check source).withSource source' := by
  have hplay := blindAt_play c check.name check.body (Session.fresh source) (h _ rfl) source'
  change c.play check.name check.body (Session.fresh source') = _ at hplay
  unfold turn
  rw [hplay]
  rfl

/-- Where nothing is drawn and no turn ends the process, the turns are those of the checks on their
own. -/
theorem turns_of_neverDraws {checks : List (Check Script)} (source : Twister)
    (h : ∀ check ∈ checks, c.NeverDraws check)
    (hf : ∀ check ∈ checks, (c.turn check source).isFatal = false) :
    c.turns source checks = checks.map (c.turn · source) := by
  induction checks with
  | nil => rfl
  | cons check rest ih =>
    rw [List.forall_mem_cons] at h hf
    have hsource : (c.turn check source).added.source = source :=
      congrArg (·.added.source) (turn_withSource h.1 source source)
    simp only [turns, hf.1, Bool.false_eq_true, ↓reduceIte, hsource, List.map_cons]
    rw [ih h.2 hf.2]

/-- A check that ends the process on its own does so behind checks that draw nothing, if none of
them has done so. -/
theorem exists_fatal_turn {checks : List (Check Script)} (source : Twister)
    (h : ∀ check ∈ checks, c.NeverDraws check) {check : Check Script} (hmem : check ∈ checks)
    (hf : (c.turn check source).isFatal = true) :
    ∃ t ∈ c.turns source checks, t.isFatal = true := by
  induction checks with
  | nil => cases hmem
  | cons first rest ih =>
    rw [List.forall_mem_cons] at h
    have hsource : (c.turn first source).added.source = source :=
      congrArg (·.added.source) (turn_withSource h.1 source source)
    cases hfirst : (c.turn first source).isFatal with
    | true => exact ⟨_, List.mem_cons_self, hfirst⟩
    | false =>
      have hrest : check ∈ rest := by
        rcases List.mem_cons.mp hmem with rfl | hmem
        · rw [hfirst] at hf
          cases hf
        · exact hmem
      obtain ⟨t, ht, hfatal⟩ := ih h.2 hrest
      refine ⟨t, ?_, hfatal⟩
      simp only [turns, hfirst, Bool.false_eq_true, ↓reduceIte, hsource]
      exact List.mem_cons_of_mem _ ht

end Setting

namespace Run

/-- What a completed run consists of if every check adds to it what it adds on its own. The number
of a check stands in the first line of its block and nowhere else. -/
structure Composed (p : Policy) (report : Report) (own : Check Script → Turn)
    (checks : List (Check Script)) (r : Result) : Prop where
  grades : r.grades = checks.flatMap fun check => (own check).grades
  lines : ∃ last, r.lines = reportLines p report ++ ((checks.zipIdx 1).flatMap
    fun (check, number) => checkLine number check :: (own check).remarks) ++ [last]
  failed : r.failed = (checks.filter fun check => (own check).isFailed).map (·.name)

/-- Two results with the same points, the parts of which may come in another order. -/
structure SameUpToOrder (a b : Result) : Prop where
  grades : a.grades.Perm b.grades
  failed : a.failed.Perm b.failed
  raw : a.raw = b.raw
  score : a.score = b.score

/-- No failure leaves any of the checks, and the sums of their points can be written. -/
structure Finishes (p : Policy) (report : Report) (own : Check Script → Turn)
    (checks : List (Check Script)) : Prop where
  contained : ∀ check ∈ checks, (own check).isFatal = false
  writable : Writable p report (checks.flatMap fun check => (own check).grades)

/-- How the runs of checks, of others, and of both behind each other are related. The sources of
random data are different ones. -/
structure Independent (p : Policy) (report : Report) (own : Check Script → Turn)
    (run : List (Check Script) → Twister → Except Failure Result)
    (checks others : List (Check Script)) : Prop where
  completed_iff : ∀ source, (∃ r, run checks source = .ok r) ↔ Finishes p report own checks
  composed : ∀ source r, run checks source = .ok r → Composed p report own checks r
  permuted : checks.Perm others → ∀ source source',
    match run checks source with
    | .ok a => ∃ b, run others source' = .ok b ∧ SameUpToOrder a b
    | .error _ => ∃ f, run others source' = .error f
  appended : ∀ source source' source'',
    match run checks source, run others source' with
    | .ok a, .ok b =>
      match run (checks ++ others) source'' with
      | .ok r => r.grades = a.grades ++ b.grades
      | .error f => f = Decimal.tooLong ∧ ¬Writable p report (a.grades ++ b.grades)
    | _, _ => ∃ f, run (checks ++ others) source'' = .error f

namespace Finishes

variable {p : Policy} {report : Report} {own : Check Script → Turn}
  {checks others : List (Check Script)}

theorem of_perm (h : checks.Perm others) (hf : Finishes p report own checks) :
    Finishes p report own others :=
  ⟨fun check hmem => hf.contained check (h.mem_iff.mpr hmem),
    hf.writable.of_perm (h.flatMap_right _)⟩

/-- Behind each other, checks add up to at least what they do on their own. -/
theorem of_append (hown : ∀ check, ∀ g ∈ (own check).grades, g.InRange)
    (h : Finishes p report own (checks ++ others)) :
    Finishes p report own checks ∧ Finishes p report own others := by
  have hleft (xs ys : List (Check Script)) (hxy : Finishes p report own (xs ++ ys)) :
      Finishes p report own xs := by
    have hrange (zs : List (Check Script)) :
        ∀ g ∈ zs.flatMap fun check => (own check).grades, g.InRange := by
      intro g hg
      obtain ⟨check, -, hg⟩ := List.mem_flatMap.mp hg
      exact hown check g hg
    have hwritable := hxy.writable
    rw [List.flatMap_append] at hwritable
    exact ⟨(List.forall_mem_append.mp hxy.contained).1,
      hwritable.of_append (hrange xs) (hrange ys)⟩
  exact ⟨hleft checks others h, hleft others checks (h.of_perm List.perm_append_comm)⟩

end Finishes

theorem composed_resultOf (p : Policy) (report : Report) (own : Check Script → Turn)
    (hown : ∀ check, (own check).check = check) (checks : List (Check Script)) (text : String) :
    Composed p report own checks (resultOf p report (checks.map own) text) := by
  have hblocks : (((checks.map own).zipIdx 1).flatMap fun x => x.1.lines x.2) =
      (checks.zipIdx 1).flatMap fun x => checkLine x.2 x.1 :: (own x.1).remarks := by
    rw [List.zipIdx_map, List.flatMap_map]
    refine List.flatMap_congr fun x _ => ?_
    change (own x.1).lines x.2 = _
    rw [Turn.lines_eq, hown]
  refine ⟨?_, ⟨_, by rw [← hblocks]; rfl⟩, ?_⟩
  · exact List.flatMap_map own Turn.grades _
  · change ((checks.map own).filter Turn.isFailed).map (·.check.name) = _
    rw [List.filter_map, List.map_map]
    refine List.map_congr_left fun check _ => ?_
    exact congrArg (·.name) (hown check)

theorem sameUpToOrder_resultOf (p : Policy) (report : Report) {ts us : List Turn}
    (h : ts.Perm us) (text text' : String) :
    SameUpToOrder (resultOf p report ts text) (resultOf p report us text') := by
  have hgrades : (ts.flatMap Turn.grades).Perm (us.flatMap Turn.grades) := h.flatMap_right _
  have hawarded : ((ts.flatMap Turn.grades).map (·.awarded)).sum =
      ((us.flatMap Turn.grades).map (·.awarded)).sum := (hgrades.map _).sum_eq
  have hraw : (resultOf p report ts text).raw = (resultOf p report us text').raw := by
    simp only [resultOf, Score.raw, Score.awarded_eq_sum, hawarded]
  refine ⟨hgrades, (h.filter _).map _, hraw, ?_⟩
  simp only [resultOf, finalScore, Score.raw, Score.awarded_eq_sum, hawarded]

/-- Where the source of random data is in the end does not show in a result. -/
theorem resultOf_map_withSource (p : Policy) (report : Report) (ts : List Turn)
    (source : Twister) :
    resultOf p report (ts.map (·.withSource source)) = resultOf p report ts := by
  have hgrades : (ts.map (·.withSource source)).flatMap Turn.grades = ts.flatMap Turn.grades :=
    List.flatMap_map _ _ _
  have hlines : (Turn.blocks 1 source (ts.map (·.withSource source))).lines =
      (Turn.blocks 1 source ts).lines := by
    rw [Turn.blocks_lines, Turn.blocks_lines, List.zipIdx_map]
    exact List.flatMap_map _ _ _
  have hnotes : (ts.map (·.withSource source)).flatMap (·.added.notes) =
      ts.flatMap (·.added.notes) := List.flatMap_map _ _ _
  have hfailed : Turn.failedNames (ts.map (·.withSource source)) = Turn.failedNames ts := by
    unfold Turn.failedNames
    rw [List.filter_map, List.map_map]
    rfl
  funext text
  simp only [resultOf, ← Turn.blocks_lines 1 source, hgrades, hlines, hnotes, hfailed]

theorem summaryOf_map_withSource (p : Policy) (report : Report) (ts : List Turn)
    (source : Twister) :
    summaryOf p report (ts.map (·.withSource source)) = summaryOf p report ts := by
  have hgrades : (ts.map (·.withSource source)).flatMap Turn.grades = ts.flatMap Turn.grades :=
    List.flatMap_map _ _ _
  simp only [summaryOf, hgrades]

section Quiet

variable (p : Policy) (units : List SourceUnit) (fs : Files) (report : Report)
  (source₀ source : Twister) {checks : List (Check Script)}

/-- The turn of a check on its own in a setting, from one source of random data. -/
def own (check : Check Script) : Turn :=
  (Setting.mk p (Setting.byPath units) fs).turn check source₀

/-- A run of checks that draw nothing has the result of what they do on their own, whatever the
source of random data is, as far as its summary can be written. -/
theorem withReport_of_quiet
    (h : ∀ check ∈ checks, (Setting.mk p (Setting.byPath units) fs).NeverDraws check)
    (hf : ∀ check ∈ checks, (own p units fs source₀ check).isFatal = false) :
    withReport checks p units fs report source =
      (summaryOf p report (checks.map (own p units fs source₀))).map
        (resultOf p report (checks.map (own p units fs source₀))) := by
  -- The turns from the two sources are the same but for the sources themselves.
  have hturn (check : Check Script) (hmem : check ∈ checks) :
      own p units fs source check = (own p units fs source₀ check).withSource source :=
    Setting.turn_withSource (h check hmem) source₀ source
  have hfatal : ∀ check ∈ checks, (own p units fs source check).isFatal = false := by
    intro check hmem
    rw [hturn check hmem]
    exact hf check hmem
  have hturns : turnsOf checks p units fs source = checks.map (own p units fs source) :=
    Setting.turns_of_neverDraws source h hfatal
  have hsources : checks.map (own p units fs source) =
      (checks.map (own p units fs source₀)).map (·.withSource source) := by
    rw [List.map_map]
    exact List.map_congr_left hturn
  have hcontained : ∀ t ∈ turnsOf checks p units fs source, t.isFatal = false := by
    rw [hturns]
    exact List.forall_mem_map.mpr hfatal
  rw [withReport_of_contained checks p units fs report source hcontained, hturns, hsources,
    summaryOf_map_withSource, resultOf_map_withSource]

/-- A check that ends a run on its own ends every run that it is part of. -/
theorem withReport_of_fatal_check
    (h : ∀ check ∈ checks, (Setting.mk p (Setting.byPath units) fs).NeverDraws check)
    {check : Check Script} (hmem : check ∈ checks)
    (hf : (own p units fs source₀ check).isFatal = true) :
    ∃ f, withReport checks p units fs report source = .error f := by
  have hown : (own p units fs source check).isFatal = true := by
    have hturn : own p units fs source check = (own p units fs source₀ check).withSource source :=
      Setting.turn_withSource (h check hmem) source₀ source
    rw [hturn]
    exact hf
  obtain ⟨t, ht, hfatal⟩ := Setting.exists_fatal_turn source h hmem hown
  obtain ⟨g, hg⟩ := Turn.isFatal_iff.mp hfatal
  exact ⟨g, withReport_of_escaped checks p units fs report source ht hg⟩

/-- How a run of checks that draw nothing ends: with the result of what they do on their own, if it
finishes, and with a failure if it does not. -/
theorem withReport_cases
    (h : ∀ check ∈ checks, (Setting.mk p (Setting.byPath units) fs).NeverDraws check) :
    Finishes p report (own p units fs source₀) checks ∧
      (∃ text, withReport checks p units fs report source =
        .ok (resultOf p report (checks.map (own p units fs source₀)) text)) ∨
    ¬Finishes p report (own p units fs source₀) checks ∧
      ∃ f, withReport checks p units fs report source = .error f ∧
        ((∀ check ∈ checks, (own p units fs source₀ check).isFatal = false) →
          f = Decimal.tooLong) := by
  by_cases hf : ∀ check ∈ checks, (own p units fs source₀ check).isFatal = false
  · rw [withReport_of_quiet p units fs report source₀ source h hf]
    have hwritable : (∃ text, summaryOf p report (checks.map (own p units fs source₀)) = .ok text) ↔
        Writable p report (checks.flatMap fun check => (own p units fs source₀ check).grades) := by
      rw [summaryOf_eq_ok_iff, List.flatMap_map]
    cases hsummary : summaryOf p report (checks.map (own p units fs source₀)) with
    | ok text => exact .inl ⟨⟨hf, hwritable.mp ⟨text, hsummary⟩⟩, text, rfl⟩
    | error f =>
      refine .inr ⟨fun hfinishes => ?_, f, rfl, fun _ => summaryOf_eq_error hsummary⟩
      obtain ⟨text, htext⟩ := hwritable.mpr hfinishes.writable
      rw [hsummary] at htext
      cases htext
  · refine .inr ⟨fun hfinishes => hf hfinishes.contained, ?_⟩
    push Not at hf
    obtain ⟨check, hmem, hfatal⟩ := hf
    obtain ⟨f, hr⟩ := withReport_of_fatal_check p units fs report source₀ source h hmem
      (Bool.of_not_eq_false hfatal)
    refine ⟨f, hr, fun hcontained => ?_⟩
    exact absurd (hcontained check hmem) hfatal

theorem exists_withReport_iff_finishes
    (h : ∀ check ∈ checks, (Setting.mk p (Setting.byPath units) fs).NeverDraws check) :
    (∃ r, withReport checks p units fs report source = .ok r) ↔
      Finishes p report (own p units fs source₀) checks := by
  rcases withReport_cases p units fs report source₀ source h with
    ⟨hf, text, hr⟩ | ⟨hf, f, hr, -⟩
  · exact iff_of_true ⟨_, hr⟩ hf
  · refine iff_of_false ?_ hf
    rintro ⟨r, hok⟩
    rw [hr] at hok
    cases hok

theorem eq_resultOf_of_withReport
    (h : ∀ check ∈ checks, (Setting.mk p (Setting.byPath units) fs).NeverDraws check) {r : Result}
    (hr : withReport checks p units fs report source = .ok r) :
    ∃ text, r = resultOf p report (checks.map (own p units fs source₀)) text := by
  rcases withReport_cases p units fs report source₀ source h with
    ⟨-, text, hok⟩ | ⟨-, f, hf, -⟩
  · exact ⟨text, Except.ok.inj (hr.symm.trans hok)⟩
  · rw [hf] at hr
    cases hr

section Others

variable {others : List (Check Script)}

/-- A run of the same checks in another order finishes as well, with the same points. -/
theorem permuted_withReport
    (h : ∀ check ∈ checks, (Setting.mk p (Setting.byPath units) fs).NeverDraws check)
    (hothers : ∀ check ∈ others, (Setting.mk p (Setting.byPath units) fs).NeverDraws check)
    (hperm : checks.Perm others) (source' : Twister) :
    match withReport checks p units fs report source with
    | .ok a => ∃ b, withReport others p units fs report source' = .ok b ∧ SameUpToOrder a b
    | .error _ => ∃ f, withReport others p units fs report source' = .error f := by
  -- What checks do on their own may be read off from the first source, too.
  have hfinishes := exists_withReport_iff_finishes p units fs report source source h
  have hfinishes' := exists_withReport_iff_finishes p units fs report source source' hothers
  cases hrun : withReport checks p units fs report source with
  | ok a =>
    obtain ⟨b, hb⟩ := hfinishes'.mpr ((hfinishes.mp ⟨a, hrun⟩).of_perm hperm)
    obtain ⟨text, rfl⟩ := eq_resultOf_of_withReport p units fs report source source h hrun
    obtain ⟨text', rfl⟩ := eq_resultOf_of_withReport p units fs report source source' hothers hb
    exact ⟨_, hb, sameUpToOrder_resultOf p report (hperm.map _) text text'⟩
  | error f =>
    cases hrun' : withReport others p units fs report source' with
    | error f' => exact ⟨f', rfl⟩
    | ok b =>
      obtain ⟨a, ha⟩ := hfinishes.mpr ((hfinishes'.mp ⟨b, hrun'⟩).of_perm hperm.symm)
      rw [hrun] at ha
      cases ha

/-- Two runs that finish also do so behind each other, unless that makes a sum too long; two runs
that do not both finish do not finish behind each other either. -/
theorem appended_withReport
    (h : ∀ check ∈ checks ++ others, (Setting.mk p (Setting.byPath units) fs).NeverDraws check)
    (source' source'' : Twister) :
    match withReport checks p units fs report source,
      withReport others p units fs report source' with
    | .ok a, .ok b =>
      match withReport (checks ++ others) p units fs report source'' with
      | .ok r => r.grades = a.grades ++ b.grades
      | .error f => f = Decimal.tooLong ∧ ¬Writable p report (a.grades ++ b.grades)
    | _, _ => ∃ f, withReport (checks ++ others) p units fs report source'' = .error f := by
  obtain ⟨hchecks, hothers⟩ := List.forall_mem_append.mp h
  have hfinishes := exists_withReport_iff_finishes p units fs report source source hchecks
  have hfinishes' := exists_withReport_iff_finishes p units fs report source source' hothers
  have hended (hf : ¬(Finishes p report (own p units fs source) checks ∧
      Finishes p report (own p units fs source) others)) :
      ∃ f, withReport (checks ++ others) p units fs report source'' = .error f := by
    rcases withReport_cases p units fs report source source'' h with ⟨hboth, -⟩ | ⟨-, f, hr, -⟩
    · exact absurd (hboth.of_append fun check => Setting.inRange_turn _ check source) hf
    · exact ⟨f, hr⟩
  cases hrun : withReport checks p units fs report source with
  | error f =>
    refine hended fun hf => ?_
    obtain ⟨a, ha⟩ := hfinishes.mpr hf.1
    rw [hrun] at ha
    cases ha
  | ok a =>
    cases hrun' : withReport others p units fs report source' with
    | error f =>
      refine hended fun hf => ?_
      obtain ⟨b, hb⟩ := hfinishes'.mpr hf.2
      rw [hrun'] at hb
      cases hb
    | ok b =>
      have hf := hfinishes.mp ⟨a, hrun⟩
      have hf' := hfinishes'.mp ⟨b, hrun'⟩
      obtain ⟨text, rfl⟩ := eq_resultOf_of_withReport p units fs report source source hchecks hrun
      obtain ⟨text', rfl⟩ :=
        eq_resultOf_of_withReport p units fs report source source' hothers hrun'
      have hgrades :
          (checks ++ others).flatMap (fun check => (own p units fs source check).grades) =
            (resultOf p report (checks.map (own p units fs source)) text).grades ++
              (resultOf p report (others.map (own p units fs source)) text').grades := by
        simp only [resultOf, List.flatMap_map, List.flatMap_append]
      rcases withReport_cases p units fs report source source'' h with
        ⟨-, text'', hr⟩ | ⟨hboth, f, hr, hlong⟩
      · simp only [hr, ← hgrades]
        exact List.flatMap_map _ _ _
      · have hcontained := List.forall_mem_append.mpr ⟨hf.contained, hf'.contained⟩
        simp only [hr, ← hgrades]
        exact ⟨hlong hcontained, fun hwritable => hboth ⟨hcontained, hwritable⟩⟩

theorem independent_withReport
    (h : ∀ check ∈ checks ++ others,
      (Setting.mk p (Setting.byPath units) fs).NeverDraws check) :
    Independent p report (own p units fs source₀)
      (fun checks source => withReport checks p units fs report source) checks others where
  completed_iff source := exists_withReport_iff_finishes p units fs report source₀ source
    (List.forall_mem_append.mp h).1
  composed source r hr := by
    obtain ⟨text, rfl⟩ := eq_resultOf_of_withReport p units fs report source₀ source
      (List.forall_mem_append.mp h).1 hr
    exact composed_resultOf p report _ (fun check => rfl) checks text
  permuted hperm source source' := permuted_withReport p units fs report source
    (List.forall_mem_append.mp h).1 (List.forall_mem_append.mp h).2 hperm source'
  appended source source' source'' :=
    appended_withReport p units fs report source h source' source''

end Others

end Quiet

/-- Checks that draw nothing are independent of each other, in runs with a given report of the rules
and in runs of an engine: what a check adds is what it adds on its own. -/
theorem checks_independent (e : Engine) (p : Policy) (units : List SourceUnit) (fs : Files)
    (source₀ : Twister) (checks others : List (Check Script))
    (h : ∀ check ∈ checks ++ others,
      (Setting.mk p (Setting.byPath units) fs).NeverDraws check) :
    (∀ report, Independent p report (own p units fs source₀)
      (fun checks source => withReport checks p units fs report source) checks others) ∧
    match e.evaluate p units with
    | .error f => ∀ checks source, e.run checks p units fs source = .error f
    | .ok report => Independent p report (own p units fs source₀)
        (fun checks source => e.run checks p units fs source) checks others := by
  refine ⟨fun report => independent_withReport p units fs report source₀ h, ?_⟩
  unfold Engine.run
  cases e.evaluate p units with
  | error f => exact fun _ _ => rfl
  | ok report => exact independent_withReport p units fs report source₀ h

/-- Exits, but draws where a grade was refused. -/
def exitOrDraw : Except Failure Bool → Script
  | .ok false => .draw (return .float (← Draw.unit)) fun _ => .done .none
  | _ => .fail ⟨"SystemExit", "3", []⟩

/-- A check that asks for an impossible length, gets points and exits. -/
def leavingCheck : Check Script where
  name := "leaving"
  description := "exits"
  body := .draw (throw (.value "Invalid length range [2, 1]")) fun _ =>
    .grading 30 "sum" (.done (.bool true)) exitOrDraw

theorem neverDraws_leavingCheck (c : Setting) : c.NeverDraws leavingCheck := by
  intro s hs
  have hgrade : Setting.grade "leaving" 30 "sum" (c.play "leaving" (.done (.bool true))) s =
      (.ok true, s.extend (Setting.graded "leaving" 30 "sum" true s.source)) := by
    have hpoints : ¬(30 : Int) < 0 := by decide
    have haward := Setting.award_of_isOpen hs "leaving" "sum" hpoints true
    simp only [Setting.grade, Setting.play, Setting.resolve, Value.truthy, haward]
    rfl
  refine ⟨⟨_, fun _ => rfl⟩, fun _ => trivial, ?_⟩
  -- The session takes the grade, so that the branch that draws is out of reach.
  change c.Undrawn "leaving" (exitOrDraw (Setting.grade "leaving" 30 "sum"
    (c.play "leaving" (.done (.bool true))) s).1) _
  rw [hgrade]
  exact trivial

/-- The check that exits and one that says what the maximal score is, in both orders and in one run
behind each other. -/
theorem checks_independent_leaving :
    let exits := leavingCheck
    let run (checks : List (Check Script)) (source : Twister) :=
      Engine.standard.run checks {} [] ⟨"/work", []⟩ source
    (∀ check ∈ [exits, sumCheck], (Setting.mk {} [] ⟨"/work", []⟩).NeverDraws check) ∧
    ∃ a b r, run [exits, sumCheck] ⟨#[], 0⟩ = .ok a ∧ run [sumCheck, exits] ⟨#[], 1⟩ = .ok b ∧
      run [exits, sumCheck, sumCheck, exits] ⟨#[], 2⟩ = .ok r ∧
      a.grades.map (·.check) = ["leaving", "leaving", "sum"] ∧ a.failed = ["leaving"] ∧
      a.grades.Perm b.grades ∧ a.failed.Perm b.failed ∧ a.score = b.score ∧
      r.grades = a.grades ++ b.grades := by
  intro exits run
  have hsum (c : Setting) : c.NeverDraws sumCheck := fun s _ => ⟨fun _ => trivial, trivial⟩
  have hquiet (checks : List (Check Script)) (hmem : checks ⊆ [exits, sumCheck]) :
      ∀ check ∈ checks, (Setting.mk {} [] ⟨"/work", []⟩).NeverDraws check := by
    intro check hcheck
    rcases List.mem_cons.mp (hmem hcheck) with rfl | hcheck
    · exact neverDraws_leavingCheck _
    · rw [List.mem_singleton.mp hcheck]
      exact hsum _
  have hown : ∀ check ∈ [exits, sumCheck],
      (own {} [] ⟨"/work", []⟩ ⟨#[], 0⟩ check).isFatal = false := by
    intro check hcheck
    rcases List.mem_cons.mp hcheck with rfl | hcheck
    · rfl
    · rw [List.mem_singleton.mp hcheck]
      rfl
  have hsubset : [exits, sumCheck, sumCheck, exits] ⊆ [exits, sumCheck] := by simp
  have hindependent (checks others : List (Check Script))
      (hmem : checks ++ others ⊆ [exits, sumCheck]) :
      Independent {} (Engine.standard.report {} []) (own {} [] ⟨"/work", []⟩ ⟨#[], 0⟩) run
        checks others := by
    have h := (checks_independent Engine.standard {} [] ⟨"/work", []⟩ ⟨#[], 0⟩ checks others
      (hquiet _ hmem)).2
    simp only [Engine.evaluate_standard] at h
    exact h
  have hboth := hindependent [exits, sumCheck] [sumCheck, exits] hsubset
  obtain ⟨a, ha⟩ := (hboth.completed_iff ⟨#[], 0⟩).mpr
    ⟨hown, by decide +kernel, by decide +kernel, by decide +kernel, by decide +kernel⟩
  have hpermuted := hboth.permuted (List.Perm.swap _ _ _) ⟨#[], 0⟩ ⟨#[], 1⟩
  simp only [ha] at hpermuted
  obtain ⟨b, hb, hab⟩ := hpermuted
  -- The four checks together do not come near the limit of what can be written either.
  obtain ⟨r, hr⟩ := ((hindependent [exits, sumCheck, sumCheck, exits] [] hsubset).completed_iff
    ⟨#[], 2⟩).mpr ⟨fun check hcheck => hown check (hsubset hcheck), by decide +kernel,
      by decide +kernel, by decide +kernel, by decide +kernel⟩
  have happended := hboth.appended ⟨#[], 0⟩ ⟨#[], 1⟩ ⟨#[], 2⟩
  simp only [ha, hb, List.cons_append, List.nil_append, hr] at happended
  have hcomposed := hboth.composed ⟨#[], 0⟩ a ha
  refine ⟨hquiet _ (List.Subset.refl _), a, b, r, ha, hb, hr, ?_, ?_, hab.grades, hab.failed,
    hab.score, happended⟩
  · rw [hcomposed.grades]
    rfl
  · rw [hcomposed.failed]
    rfl

end Run

end Grader
