import Grader.Proofs.Grading.Outcome

/-! Sequences of calls on a score. `Score.perform_eq_ok_iff` says once what an accepted call does;
from it, a score that has had any calls is described by the calls that it accepted, which end with
the one that settles it. -/

namespace Grader

/-- A call that may change a score. -/
inductive ScoreCall where
  | grade (g : Grade)
  | deduction (points : Int)
  | settlement (zero : Bool)
  deriving DecidableEq

namespace ScoreCall

/-- The points of the call are ones that a score takes. -/
def InRange : ScoreCall → Prop
  | grade g => 0 ≤ g.awarded ∧ g.awarded ≤ g.possible
  | deduction points => 0 ≤ points
  | settlement _ => True

def grade? : ScoreCall → Option Grade
  | grade g => some g
  | _ => none

def deduction? : ScoreCall → Option Int
  | deduction points => some points
  | _ => none

def isSettlement : ScoreCall → Bool
  | settlement _ => true
  | _ => false

def grades (cs : List ScoreCall) : List Grade := cs.filterMap grade?

/-- The points that the deductions among the calls add up to. -/
def deducted (cs : List ScoreCall) : Int := (cs.filterMap deduction?).sum

theorem grades_append (cs ds : List ScoreCall) : grades (cs ++ ds) = grades cs ++ grades ds :=
  List.filterMap_append

theorem deducted_append (cs ds : List ScoreCall) :
    deducted (cs ++ ds) = deducted cs + deducted ds := by
  unfold deducted
  rw [List.filterMap_append, List.sum_append]

theorem inRange_of_mem_grades {cs : List ScoreCall} (h : ∀ c ∈ cs, c.InRange) {g : Grade}
    (hg : g ∈ grades cs) : 0 ≤ g.awarded ∧ g.awarded ≤ g.possible := by
  obtain ⟨c, hc, hgrade⟩ := List.mem_filterMap.mp hg
  cases c with
  | grade g' =>
    cases hgrade
    exact h _ hc
  | deduction points => cases hgrade
  | settlement zero => cases hgrade

theorem deducted_nonneg {cs : List ScoreCall} (h : ∀ c ∈ cs, c.InRange) : 0 ≤ deducted cs := by
  refine List.sum_nonneg ?_
  intro n hn
  obtain ⟨c, hc, hpoints⟩ := List.mem_filterMap.mp hn
  cases c with
  | grade g => cases hpoints
  | deduction points =>
    cases hpoints
    exact h _ hc
  | settlement zero => cases hpoints

end ScoreCall

namespace Score

def perform (s : Score) : ScoreCall → Except ScoreError Score
  | .grade g => s.addGrade g
  | .deduction points => s.deduct points
  | .settlement zero => (s.settle zero).map (·.2)

/-- The score after a call: the same one if the call is refused. -/
def after (s : Score) (c : ScoreCall) : Score :=
  match s.perform c with
  | .ok t => t
  | .error _ => s

def afterAll (s : Score) (cs : List ScoreCall) : Score := cs.foldl after s

/-- Those of the calls, made one after the other, that are accepted. -/
def accepted (s : Score) : List ScoreCall → List ScoreCall
  | [] => []
  | c :: cs =>
    match s.perform c with
    | .ok t => c :: t.accepted cs
    | .error _ => s.accepted cs

/-- What the score is settled at. -/
def settlement (s : Score) (zero : Bool) : Int := if zero then 0 else clamp s.raw 0 s.maximum

/-- The score with an accepted call. -/
def taking (s : Score) : ScoreCall → Score
  | .grade g => { s with grades := s.grades ++ [g] }
  | .deduction points => { s with deduction := s.deduction + points.toNat }
  | .settlement zero => { s with settled := some (s.settlement zero) }

theorem settlement_mem (s : Score) (zero : Bool) :
    0 ≤ s.settlement zero ∧ s.settlement zero ≤ s.maximum := by
  unfold settlement
  split
  · omega
  · exact clamp_mem _ (by omega)

theorem isSettled_eq_false_iff {s : Score} : s.isSettled = false ↔ s.settled = none := by
  unfold isSettled
  exact Option.isSome_eq_false_iff.trans Option.isNone_iff_eq_none

/-- A call is accepted exactly by a score that is not settled, with points in range. -/
theorem perform_eq_ok_iff {s t : Score} {c : ScoreCall} :
    s.perform c = .ok t ↔ s.settled = none ∧ c.InRange ∧ t = s.taking c := by
  rw [← isSettled_eq_false_iff]
  cases hs : s.isSettled with
  | true => cases c <;> simp [perform, addGrade, deduct, settle, hs, Except.map]
  | false =>
    cases c with
    | grade g =>
      have hrange : (g.possible < 0 ∨ g.awarded < 0 ∨ g.possible < g.awarded) ↔
          ¬(ScoreCall.grade g).InRange := by
        unfold ScoreCall.InRange
        omega
      by_cases h : (ScoreCall.grade g).InRange
      · simp [perform, addGrade, hs, hrange, h, taking, eq_comm]
      · simp [perform, addGrade, hs, hrange, h]
    | deduction points =>
      by_cases h : points < 0
      · simp [perform, deduct, hs, h, ScoreCall.InRange]
      · simp [perform, deduct, hs, h, ScoreCall.InRange, taking, eq_comm, Int.not_lt.mp h]
    | settlement zero =>
      simp [perform, settle, hs, Except.map, ScoreCall.InRange, taking, settlement, eq_comm]

theorem perform_eq_error_iff {s : Score} {c : ScoreCall} :
    (∃ e, s.perform c = .error e) ↔ s.isSettled = true ∨ ¬c.InRange := by
  have hok : (∃ t, s.perform c = .ok t) ↔ s.isSettled = false ∧ c.InRange := by
    simp only [perform_eq_ok_iff, isSettled_eq_false_iff]
    exact ⟨fun ⟨_, h, hc, _⟩ => ⟨h, hc⟩, fun ⟨h, hc⟩ => ⟨_, h, hc, rfl⟩⟩
  have hnot : (∃ e, s.perform c = .error e) ↔ ¬∃ t, s.perform c = .ok t := by
    cases s.perform c <;> simp
  rw [hnot, hok, not_and_or, Bool.not_eq_false]

theorem after_of_error {s : Score} {c : ScoreCall} {e : ScoreError} (h : s.perform c = .error e) :
    s.after c = s := by
  simp only [after, h]

theorem after_of_isSettled {s : Score} (h : s.isSettled = true) (c : ScoreCall) :
    s.after c = s := by
  obtain ⟨e, he⟩ := perform_eq_error_iff.mpr (.inl h)
  exact after_of_error he

/-- A settled score does not change any more. -/
theorem afterAll_of_isSettled {s : Score} (h : s.isSettled = true) (cs : List ScoreCall) :
    s.afterAll cs = s := by
  induction cs with
  | nil => rfl
  | cons c cs ih =>
    unfold afterAll at ih ⊢
    rw [List.foldl_cons, after_of_isSettled h c, ih]

/-- What a score has from the calls that it accepted. -/
structure Accepted (maximum : Nat) (cs : List ScoreCall) (s : Score) : Prop where
  maximum_eq : s.maximum = maximum
  inRange : ∀ c ∈ cs, c.InRange
  grades_eq : s.grades = ScoreCall.grades cs
  deduction_eq : (s.deduction : Int) = ScoreCall.deducted cs
  /-- A score that is not settled has accepted no settlement. -/
  unsettled : s.settled = none → ∀ c ∈ cs, c.isSettlement = false
  /-- A settled one has accepted one, as its last call. -/
  settled : ∀ v, s.settled = some v → ∃ front zero, cs = front ++ [.settlement zero] ∧
    (∀ c ∈ front, c.isSettlement = false) ∧ v = s.settlement zero

/-- A score keeps account of one more call that it accepts. -/
theorem Accepted.perform {maximum : Nat} {cs : List ScoreCall} {s t : Score}
    (h : Accepted maximum cs s) {c : ScoreCall} (hc : s.perform c = .ok t) :
    Accepted maximum (cs ++ [c]) t := by
  obtain ⟨hopen, hrange, rfl⟩ := perform_eq_ok_iff.mp hc
  have hfront := h.unsettled hopen
  have hinRange : ∀ d ∈ cs ++ [c], d.InRange := by
    intro d hd
    rcases List.mem_append.mp hd with hd | hd
    · exact h.inRange d hd
    · rw [List.mem_singleton.mp hd]
      exact hrange
  have hunsettled (hs : c.isSettlement = false) : ∀ d ∈ cs ++ [c], d.isSettlement = false := by
    intro d hd
    rcases List.mem_append.mp hd with hd | hd
    · exact hfront d hd
    · rw [List.mem_singleton.mp hd, hs]
  -- A grade and a deduction leave the score open, and a settlement leaves its points.
  cases c with
  | grade g =>
    refine ⟨h.maximum_eq, hinRange, ?_, ?_, fun _ => hunsettled rfl, ?_⟩
    · rw [ScoreCall.grades_append, ← h.grades_eq]
      rfl
    · rw [ScoreCall.deducted_append, ← h.deduction_eq]
      exact (add_zero _).symm
    · intro v hv
      exact absurd (hopen.symm.trans hv) (by simp)
  | deduction points =>
    refine ⟨h.maximum_eq, hinRange, ?_, ?_, fun _ => hunsettled rfl, ?_⟩
    · rw [ScoreCall.grades_append, ← h.grades_eq]
      exact (List.append_nil _).symm
    · have hpoints : 0 ≤ points := hrange
      have hone : ScoreCall.deducted [.deduction points] = points := by
        simp [ScoreCall.deducted, ScoreCall.deduction?]
      rw [ScoreCall.deducted_append, ← h.deduction_eq, hone]
      simp only [taking]
      omega
    · intro v hv
      exact absurd (hopen.symm.trans hv) (by simp)
  | settlement zero =>
    refine ⟨h.maximum_eq, hinRange, ?_, ?_, ?_, ?_⟩
    · rw [ScoreCall.grades_append, ← h.grades_eq]
      exact (List.append_nil _).symm
    · rw [ScoreCall.deducted_append, ← h.deduction_eq]
      exact (add_zero _).symm
    · intro hnone
      cases hnone
    · intro v hv
      cases hv
      exact ⟨cs, zero, rfl, hfront, rfl⟩

/-- After any calls, a score has an account of those of them that it accepted. -/
theorem Accepted.afterAll {maximum : Nat} {front : List ScoreCall} {s : Score}
    (h : Accepted maximum front s) (cs : List ScoreCall) :
    Accepted maximum (front ++ s.accepted cs) (s.afterAll cs) := by
  induction cs generalizing front s with
  | nil =>
    rw [accepted, List.append_nil]
    exact h
  | cons c cs ih =>
    unfold Score.afterAll at ih ⊢
    cases hc : s.perform c with
    | ok t =>
      have hrest := ih (h.perform hc)
      rw [List.append_assoc, List.singleton_append] at hrest
      simpa only [accepted, hc, List.foldl_cons, after] using hrest
    | error e => simpa only [accepted, hc, List.foldl_cons, after] using ih h

theorem accepted_ofMaximum {maximum : Int} {new : Score} (h : ofMaximum maximum = .ok new) :
    new.settled = none ∧ (new.maximum : Int) = maximum ∧ Accepted new.maximum [] new := by
  unfold ofMaximum at h
  split at h
  · cases h
    refine ⟨rfl, Int.toNat_of_nonneg (by omega), rfl, by simp, rfl, rfl, by simp, ?_⟩
    intro v hv
    cases hv
  · cases h

/-- What can be seen of a score with a maximum that has accepted the calls `cs`, and no others. -/
structure Account (maximum : Int) (cs : List ScoreCall) (s : Score) : Prop where
  grades : s.grades = ScoreCall.grades cs
  awarded : s.awarded = ((ScoreCall.grades cs).map (·.awarded)).sum
  possible : s.possible = ((ScoreCall.grades cs).map (·.possible)).sum
  awarded_nonneg : 0 ≤ s.awarded
  awarded_le_possible : s.awarded ≤ s.possible
  deduction : (s.deduction : Int) = ScoreCall.deducted cs
  deducted_nonneg : 0 ≤ ScoreCall.deducted cs
  raw : s.raw = s.awarded - s.deduction
  /-- A settled score refuses every call, and one that is not settled those out of range. -/
  refuses : ∀ c, (∃ e, s.perform c = .error e) ↔ s.isSettled = true ∨ ¬c.InRange
  unchanged : ∀ c e, s.perform c = .error e → s.after c = s
  settlements : (cs.filter (·.isSettlement)).length ≤ 1
  final : ∀ v, s.final = .ok v ↔
    ∃ zero, .settlement zero ∈ cs ∧ v = if zero then 0 else max 0 (min maximum s.raw)
  final_mem : ∀ v, s.final = .ok v → 0 ≤ v ∧ v ≤ maximum
  fixed : s.isSettled = true → ∀ later, s.afterAll later = s

theorem final_eq_ok_iff {s : Score} {v : Int} : s.final = .ok v ↔ s.settled = some v := by
  unfold final
  cases s.settled <;> simp

theorem Accepted.settlements {maximum : Nat} {cs : List ScoreCall} {s : Score}
    (h : Accepted maximum cs s) : (cs.filter (·.isSettlement)).length ≤ 1 := by
  have hnone {cs : List ScoreCall} (hcs : ∀ c ∈ cs, c.isSettlement = false) :
      cs.filter (·.isSettlement) = [] :=
    List.filter_eq_nil_iff.mpr fun c hc => by simp [hcs c hc]
  cases hs : s.settled with
  | none => simp [hnone (h.unsettled hs)]
  | some v =>
    obtain ⟨front, zero, rfl, hfront, -⟩ := h.settled v hs
    rw [List.filter_append, hnone hfront]
    exact le_rfl

/-- The settlement among the accepted calls decides the final score. -/
theorem Accepted.settled_iff {maximum : Nat} {cs : List ScoreCall} {s : Score}
    (h : Accepted maximum cs s) {v : Int} :
    s.settled = some v ↔ ∃ zero, .settlement zero ∈ cs ∧ v = s.settlement zero := by
  constructor
  · intro hv
    obtain ⟨front, zero, rfl, -, hfinal⟩ := h.settled v hv
    exact ⟨zero, List.mem_append_right front List.mem_cons_self, hfinal⟩
  · rintro ⟨zero, hmem, rfl⟩
    cases hs : s.settled with
    | none =>
      have hno := h.unsettled hs _ hmem
      cases hno
    | some w =>
      obtain ⟨front, zero', rfl, hfront, rfl⟩ := h.settled w hs
      rcases List.mem_append.mp hmem with hmem | hmem
      · have hno := hfront _ hmem
        cases hno
      · cases List.mem_singleton.mp hmem
        rfl

theorem Accepted.account {maximum : Nat} {cs : List ScoreCall} {s : Score}
    (h : Accepted maximum cs s) : Account maximum cs s := by
  have hawarded : s.awarded = ((ScoreCall.grades cs).map (·.awarded)).sum := by
    rw [awarded_eq_sum, h.grades_eq]
  have hpossible : s.possible = ((ScoreCall.grades cs).map (·.possible)).sum := by
    rw [possible_eq_sum, h.grades_eq]
  have hsettlement (zero : Bool) :
      s.settlement zero = if zero then 0 else max 0 (min (maximum : Int) s.raw) := by
    rw [← h.maximum_eq]
    rfl
  refine
    { grades := h.grades_eq
      awarded := hawarded
      possible := hpossible
      awarded_nonneg := ?_
      awarded_le_possible := ?_
      deduction := h.deduction_eq
      deducted_nonneg := ScoreCall.deducted_nonneg h.inRange
      raw := rfl
      refuses := fun _ => perform_eq_error_iff
      unchanged := fun _ _ => after_of_error
      settlements := h.settlements
      final := ?_
      final_mem := ?_
      fixed := fun hs => afterAll_of_isSettled hs }
  · rw [hawarded]
    refine List.sum_nonneg ?_
    simp only [List.mem_map, forall_exists_index, and_imp]
    rintro n g hg rfl
    exact (ScoreCall.inRange_of_mem_grades h.inRange hg).1
  · rw [hawarded, hpossible]
    exact List.sum_le_sum fun g hg => (ScoreCall.inRange_of_mem_grades h.inRange hg).2
  · intro v
    rw [final_eq_ok_iff, h.settled_iff]
    simp only [hsettlement]
  · intro v hv
    obtain ⟨zero, -, rfl⟩ := h.settled_iff.mp (final_eq_ok_iff.mp hv)
    rw [← h.maximum_eq]
    exact s.settlement_mem zero

/-- Two scores that have accepted the same grades, in any order, and deductions of the same total,
are settled at the same points. -/
theorem Accepted.settlement_eq {maximum : Nat} {cs ds : List ScoreCall} {s t : Score}
    (hs : Accepted maximum cs s) (ht : Accepted maximum ds t)
    (hgrades : (ScoreCall.grades cs).Perm (ScoreCall.grades ds))
    (hdeducted : ScoreCall.deducted cs = ScoreCall.deducted ds) (zero : Bool) :
    s.settlement zero = t.settlement zero := by
  have hraw : s.raw = t.raw := by
    rw [hs.account.raw, ht.account.raw, hs.account.awarded, ht.account.awarded, hs.deduction_eq,
      ht.deduction_eq, hdeducted, (hgrades.map _).sum_eq]
  unfold settlement
  rw [hraw, hs.maximum_eq, ht.maximum_eq]

/-- Whatever calls a new score gets, it keeps account of those that it accepts, and what it is
settled at depends on the grades and on the total of the deductions among these alone. -/
theorem account_of_calls (maximum : Int) (h : 1 ≤ maximum) :
    ∃ new, ofMaximum maximum = .ok new ∧
      (∀ calls, Account maximum (new.accepted calls) (new.afterAll calls)) ∧
      ∀ calls calls' front front' zero, new.accepted calls = front ++ [.settlement zero] →
        new.accepted calls' = front' ++ [.settlement zero] →
        (ScoreCall.grades front).Perm (ScoreCall.grades front') →
        ScoreCall.deducted front = ScoreCall.deducted front' →
        ∃ v, (new.afterAll calls).final = .ok v ∧ (new.afterAll calls').final = .ok v := by
  obtain ⟨new, hnew⟩ : ∃ new, ofMaximum maximum = .ok new := by
    unfold ofMaximum
    rw [dif_pos (by omega)]
    exact ⟨_, rfl⟩
  obtain ⟨-, hmaximum, hstart⟩ := accepted_ofMaximum hnew
  have hcalls (calls : List ScoreCall) := hstart.afterAll calls
  simp only [List.nil_append] at hcalls
  refine ⟨new, hnew, ?_, ?_⟩
  · intro calls
    rw [← hmaximum]
    exact (hcalls calls).account
  · intro calls calls' front front' zero hfront hfront' hgrades hdeducted
    have hfinal {calls front : List ScoreCall}
        (hfront : new.accepted calls = front ++ [.settlement zero]) :
        (new.afterAll calls).final = .ok ((new.afterAll calls).settlement zero) := by
      rw [final_eq_ok_iff, (hcalls calls).settled_iff]
      exact ⟨zero, by simp [hfront], rfl⟩
    have heq := (hcalls calls).settlement_eq (hcalls calls')
      (by
        rw [hfront, hfront', ScoreCall.grades_append, ScoreCall.grades_append]
        exact hgrades.append_right _)
      (by rw [hfront, hfront', ScoreCall.deducted_append, ScoreCall.deducted_append, hdeducted])
      zero
    exact ⟨_, hfinal hfront, heq ▸ hfinal hfront'⟩

/-- Two grades and fifteen points off, in two orders and with calls between them that are refused:
too many points, a negative deduction, and one more call behind the settlement. -/
theorem account_of_calls_refused :
    let sum : Grade := ⟨"sum", "adds", 30, 40, true⟩
    let names : Grade := ⟨"names", "spells", 25, 25, true⟩
    let front : List ScoreCall := [.grade sum, .deduction 5, .grade names, .deduction 10]
    let front' : List ScoreCall := [.deduction 15, .grade names, .grade sum]
    let calls : List ScoreCall := [.grade sum, .deduction 5, .grade ⟨"sum", "adds", 41, 40, true⟩,
      .grade names, .deduction (-5), .deduction 10, .settlement false, .deduction 60]
    ∃ new, ofMaximum 100 = .ok new ∧
      Account 100 (front ++ [.settlement false]) (new.afterAll calls) ∧
      (new.afterAll calls).final = .ok 40 ∧
      (new.afterAll (front' ++ [.settlement false])).final = .ok 40 := by
  intro sum names front front' calls
  obtain ⟨new, hnew, haccount, hfinal⟩ := account_of_calls 100 (by decide)
  cases hnew
  refine ⟨_, rfl, haccount calls, ?_⟩
  obtain ⟨v, hv, hv'⟩ := hfinal calls (front' ++ [.settlement false]) front front' false rfl rfl
    (by decide) rfl
  cases hv.symm.trans (show _ = Except.ok (40 : Int) from rfl)
  exact ⟨hv, hv'⟩

end Score

end Grader
