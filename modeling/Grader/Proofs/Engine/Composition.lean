import Grader.Proofs.Engine.Order
import Grader.Proofs.Engine.Strictness

/-! Reports of lists of submissions put together from the reports of their parts. Violations and
diagnostics follow one another, and counts add up. Points add up too, except that a rule which is
charged once for all violations is charged by both parts and only once by the whole. -/

namespace Grader

/-- Charging two numbers of violations apart costs one penalty too much if the rule is charged once
and neither number is zero. -/
theorem RuleSettings.deduction_add (s : RuleSettings) (m n : Nat) :
    s.deduction m + s.deduction n = s.deduction (m + n) +
      if s.perOccurrence = false ∧ 0 < m ∧ 0 < n then s.penalty else 0 := by
  unfold deduction
  rcases Nat.eq_zero_or_pos m with rfl | hm
  · simp
  rcases Nat.eq_zero_or_pos n with rfl | hn
  · simp
  have hsum : m + n ≠ 0 := by omega
  rw [if_neg hm.ne', if_neg hn.ne', if_neg hsum]
  cases s.perOccurrence with
  | true => simp [Nat.mul_add]
  | false => simp [hm, hn]

namespace Engine

variable (e : Engine) (p : Policy) (us vs : List SourceUnit)

theorem collected_append : (e.collected p (us ++ vs)).violations =
    (e.collected p us).violations ++
      (e.collected p vs).violations.map fun x => (us.length + x.1, x.2) := by
  unfold collected
  simp only [List.zipIdx_append, List.flatMap_append, List.map_flatMap, List.map_map]
  rw [Nat.zero_add, List.zipIdx_eq_map_add (l := vs) (i := us.length), List.flatMap_map]
  simp only [Function.comp_def]

theorem lt_length_of_mem_collected {x : Nat × Violation}
    (h : x ∈ (e.collected p us).violations) : x.1 < us.length := by
  obtain ⟨⟨u, n⟩, hu, hx⟩ := List.mem_flatMap.mp h
  obtain ⟨v, -, rfl⟩ := List.mem_map.mp hx
  have hn := (List.mem_zipIdx hu).2.1
  omega

/-- The sort of a report moves no violation of one submission past one of another. -/
theorem violations_append :
    e.violations p (us ++ vs) = e.violations p us ++ e.violations p vs := by
  let shift : Nat × Violation → Nat × Violation := fun x => (us.length + x.1, x.2)
  -- Comparison begins with the number of the submission, and those of the second part are larger.
  have hfirst : ∀ x ∈ (e.collected p us).violations,
      ∀ y ∈ (e.collected p vs).violations.map shift, Part.inOrder x y = true := by
    intro x hx y hy
    obtain ⟨z, -, rfl⟩ := List.mem_map.mp hy
    have hlt := e.lt_length_of_mem_collected p us hx
    exact (inOrder_iff _ _).mpr (Or.inl (by simp only [shift]; omega))
  -- Moving all numbers on by the same amount changes no comparison.
  have hshift (xs : List (Nat × Violation)) :
      ((xs.map shift).mergeSort Part.inOrder).map (·.2) =
        (xs.mergeSort Part.inOrder).map (·.2) := by
    have hsame : ∀ x ∈ xs, ∀ y ∈ xs, Part.inOrder x y = Part.inOrder (shift x) (shift y) := by
      intro x _ y _
      rw [Bool.eq_iff_iff, inOrder_iff, inOrder_iff]
      simp only [shift]
      omega
    rw [← List.map_mergeSort hsame, List.map_map]
    rfl
  unfold violations Part.ordered
  rw [collected_append, Sorting.mergeSort_append inOrder_trans inOrder_total hfirst,
    List.map_append, hshift]

theorem countOf_append (rule : String) (xs ys : List Violation) :
    countOf rule (xs ++ ys) = countOf rule xs + countOf rule ys :=
  List.countP_append

theorem count_report_append (rule : String) : (e.report p (us ++ vs)).count rule =
    (e.report p us).count rule + (e.report p vs).count rule := by
  rw [count_report, count_report, count_report, countOf_violations_append]

/-- Submissions in another order have the same violations in another order. -/
theorem violations_perm_of_perm {us vs : List SourceUnit} (h : us.Perm vs) :
    (e.violations p us).Perm (e.violations p vs) := by
  have hfound : (us.flatMap (e.found p)).Perm (vs.flatMap (e.found p)) := h.flatMap_right _
  exact (e.violations_perm p us).trans (hfound.trans (e.violations_perm p vs).symm)

end Engine

namespace Catalogue

variable (c : Catalogue) (p : Policy)

/-- The ordinary rules that are charged once for all violations and are violated in both of two
reports. -/
def sharedRules (a b : Report) : List RuleName :=
  c.names.filter fun n => !Rule.isAboutCheating n && !(p.rules n).perOccurrence &&
    decide (0 < a.count n.text) && decide (0 < b.count n.text)

variable {p}

theorem price_append (xs ys : List Violation) (n : RuleName) :
    price p xs n + price p ys n = price p (xs ++ ys) n +
      if !Rule.isAboutCheating n && !(p.rules n).perOccurrence &&
        decide (0 < Engine.countOf n.text xs) && decide (0 < Engine.countOf n.text ys)
      then (p.rules n).penalty else 0 := by
  unfold price
  cases Rule.isAboutCheating n with
  | true => simp
  | false =>
    simp only [Bool.false_eq_true, ↓reduceIte, Engine.countOf_append, RuleSettings.deduction_add,
      Bool.not_false, Bool.true_and, Bool.and_eq_true, Bool.not_eq_true', decide_eq_true_eq,
      and_assoc]

/-- What the parts charge beyond the whole is one penalty for every shared rule. -/
theorem points_append (us vs : List SourceUnit) :
    c.engine.points p (c.engine.violations p us) + c.engine.points p (c.engine.violations p vs) =
      c.engine.points p (c.engine.violations p (us ++ vs)) +
        ((c.sharedRules p (c.engine.report p us) (c.engine.report p vs)).map
          fun n => (p.rules n).penalty).sum := by
  -- Prices are compared rule by rule; what unparsable submissions cost is linear in their number.
  have hprices := congrArg List.sum (List.map_congr_left fun n (_ : n ∈ c.names) =>
    price_append (p := p) (c.engine.violations p us) (c.engine.violations p vs) n)
  rw [List.sum_map_add, List.sum_map_add] at hprices
  unfold sharedRules
  rw [sum_map_filter]
  simp only [Engine.count_report]
  rw [points_engine, points_engine, points_engine, Engine.violations_append,
    Engine.countOf_append, Nat.mul_add]
  omega

theorem max_points_le_append (us vs : List SourceUnit) :
    max (c.engine.points p (c.engine.violations p us))
        (c.engine.points p (c.engine.violations p vs)) ≤
      c.engine.points p (c.engine.violations p (us ++ vs)) := by
  refine max_le ?_ ?_
  · apply c.deduction_report_mono (.refl p)
    intro rule
    rw [Engine.countOf_violations_append]
    exact Nat.le_add_right _ _
  · apply c.deduction_report_mono (.refl p)
    intro rule
    rw [Engine.countOf_violations_append]
    exact Nat.le_add_left _ _

/-- Points depend on how often each rule is violated, not on where. -/
theorem deduction_report_of_perm {us vs : List SourceUnit} (h : us.Perm vs) :
    (c.engine.report p us).deduction = (c.engine.report p vs).deduction := by
  have hcount (rule : String) : Engine.countOf rule (c.engine.violations p us) =
      Engine.countOf rule (c.engine.violations p vs) :=
    (c.engine.violations_perm_of_perm p h).countP_eq _
  exact le_antisymm (c.deduction_report_mono (.refl p) fun rule => (hcount rule).le)
    (c.deduction_report_mono (.refl p) fun rule => (hcount rule).ge)

theorem integrityViolated_append (us vs : List SourceUnit) :
    (c.engine.report p (us ++ vs)).integrityViolated =
      ((c.engine.report p us).integrityViolated || (c.engine.report p vs).integrityViolated) := by
  unfold Report.integrityViolated
  change (c.engine.violations p (us ++ vs)).any _ = _
  rw [Engine.violations_append, List.any_append]
  rfl

/-- The report of submissions one after the other is put together from the reports of both parts:
violations and diagnostics follow one another, counts add up, and so do points, less one penalty
for every ordinary rule that is charged once and violated in both parts. The order of submissions
changes neither counts nor points, nor whether there is a sign of cheating. -/
theorem evaluate_append (c : Catalogue) (p : Policy) (us vs : List SourceUnit) (a b : Report)
    (ha : c.engine.evaluate p us = .ok a) (hb : c.engine.evaluate p vs = .ok b) :
    (∃ r, c.engine.evaluate p (us ++ vs) = .ok r ∧
      r.violations = a.violations ++ b.violations ∧
      r.diagnostics = a.diagnostics ++ b.diagnostics ∧
      (∀ rule n, (rule, n) ∈ r.counts ↔ 0 < n ∧ n = a.count rule + b.count rule) ∧
      r.integrityViolated = (a.integrityViolated || b.integrityViolated) ∧
      a.deduction + b.deduction =
        r.deduction + ((c.sharedRules p a b).map fun n => (p.rules n).penalty).sum ∧
      max a.deduction b.deduction ≤ r.deduction ∧
      r.deduction ≤ a.deduction + b.deduction) ∧
    ∀ ws : List SourceUnit, ws.Perm us → ∃ r, c.engine.evaluate p ws = .ok r ∧
      r.counts.Perm a.counts ∧ r.deduction = a.deduction ∧
      r.integrityViolated = a.integrityViolated := by
  obtain ⟨hus, rfl⟩ := (c.evaluate_eq_ok_iff p).mp ha
  obtain ⟨hvs, rfl⟩ := (c.evaluate_eq_ok_iff p).mp hb
  constructor
  · have hcontained := List.forall_mem_append.mpr ⟨hus, hvs⟩
    have hpoints := c.points_append (p := p) us vs
    refine ⟨c.engine.report p (us ++ vs), (c.evaluate_eq_ok_iff p).mpr ⟨hcontained, rfl⟩,
      c.engine.violations_append p us vs, List.flatMap_append, ?_,
      c.integrityViolated_append us vs, hpoints, c.max_points_le_append us vs,
      Nat.le.intro hpoints.symm⟩
    intro rule n
    rw [Report.mem_counts_iff_count, Engine.count_report_append]
  · intro ws hws
    have hcontained := fun u hu => hus u (hws.mem_iff.mp hu)
    have hviolations := c.engine.violations_perm_of_perm p hws
    exact ⟨c.engine.report p ws, (c.evaluate_eq_ok_iff p).mpr ⟨hcontained, rfl⟩,
      Report.counts_perm hviolations, c.deduction_report_of_perm hws, hviolations.any_eq⟩

/-- The policy under which every rule applies and is charged once. -/
def onceEach : Policy :=
  { Policy.standard with
    rules := fun r => { r.settings with enabled := true, perOccurrence := false } }

/-- The two loops of a submission that is handed in twice cost one penalty, and so do all four. -/
theorem evaluate_append_loopUnits : ∃ a r,
    standard.engine.evaluate onceEach loopUnits = .ok a ∧
    standard.engine.evaluate onceEach (loopUnits ++ loopUnits) = .ok r ∧
    standard.sharedRules onceEach a a = [.loops] ∧
    a.deduction + a.deduction = r.deduction + 10 := by
  have hrun := standard.evaluate_of_isContained onceEach standard_isContained loopUnits
  obtain ⟨⟨r, hr, -, -, -, -, hpoints, -⟩, -⟩ :=
    evaluate_append standard onceEach loopUnits loopUnits _ _ hrun hrun
  have hshared : standard.sharedRules onceEach (standard.engine.report onceEach loopUnits)
      (standard.engine.report onceEach loopUnits) = [.loops] := by
    unfold sharedRules
    simp only [Engine.count_report, Engine.countOf_violations]
    decide +kernel
  rw [hshared] at hpoints
  exact ⟨_, r, hrun, hr, hshared, hpoints⟩

end Catalogue

end Grader
