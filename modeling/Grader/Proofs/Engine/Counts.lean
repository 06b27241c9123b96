import Grader.Proofs.Engine.Report
import Mathlib

/-! What a report says about its violations: the rules that are violated, how often, and whether
there is a sign of cheating. -/

namespace Grader

namespace Report

theorem integrityViolated_iff (r : Report) : r.integrityViolated = true ↔ r.cheats ≠ [] := by
  unfold integrityViolated cheats
  rw [List.any_eq_true, ne_eq, List.filter_eq_nil_iff]
  push Not
  rfl

/-- The names collected along a list are those that were there and those that it brings. -/
theorem mem_foldl_rules (vs : List Violation) (names : List String) (x : String) :
    x ∈ vs.foldl (fun acc v => if acc.contains v.rule then acc else acc ++ [v.rule]) names ↔
      x ∈ names ∨ ∃ v ∈ vs, v.rule = x := by
  induction vs generalizing names with
  | nil => simp
  | cons v vs ih =>
    rw [List.foldl_cons, ih]
    split
    · -- The name is there already, so the violation brings nothing.
      rename_i hv
      have hmem : v.rule ∈ names := by simpa using hv
      constructor
      · rintro (hx | ⟨w, hw, rfl⟩)
        · exact Or.inl hx
        · exact Or.inr ⟨w, List.mem_cons_of_mem v hw, rfl⟩
      · rintro (hx | ⟨w, hw, rfl⟩)
        · exact Or.inl hx
        · rcases List.mem_cons.mp hw with rfl | hw
          · exact Or.inl hmem
          · exact Or.inr ⟨w, hw, rfl⟩
    · rw [List.mem_append, List.mem_singleton, or_assoc, eq_comm, List.exists_mem_cons_iff]

theorem nodup_foldl_rules (vs : List Violation) {names : List String} (h : names.Nodup) :
    (vs.foldl (fun acc v => if acc.contains v.rule then acc else acc ++ [v.rule]) names).Nodup := by
  induction vs generalizing names with
  | nil => exact h
  | cons v vs ih =>
    rw [List.foldl_cons]
    split
    · exact ih h
    · rename_i hv
      have hfresh : v.rule ∉ names := by simpa using hv
      exact ih (List.nodup_append.mpr ⟨h, List.nodup_singleton _,
        fun a ha b hb => fun hab => hfresh (by rw [← List.mem_singleton.mp hb, ← hab]; exact ha)⟩)

theorem mem_violatedRules (r : Report) (x : String) :
    x ∈ r.violatedRules ↔ ∃ v ∈ r.violations, v.rule = x := by
  unfold violatedRules
  rw [mem_foldl_rules]
  simp

theorem nodup_violatedRules (r : Report) : r.violatedRules.Nodup :=
  nodup_foldl_rules r.violations List.nodup_nil

/-- A rule is counted exactly if it occurs, and as often as it does. -/
theorem mem_counts (r : Report) (rule : String) (n : Nat) :
    (rule, n) ∈ r.counts ↔
      (∃ v ∈ r.violations, v.rule = rule) ∧ n = (r.byRule rule).length := by
  unfold counts
  rw [← mem_violatedRules, List.mem_map]
  constructor
  · rintro ⟨x, hx, heq⟩
    obtain ⟨rfl, rfl⟩ := Prod.mk.inj heq
    exact ⟨hx, rfl⟩
  · rintro ⟨hx, rfl⟩
    exact ⟨rule, hx, rfl⟩

theorem map_fst_counts (r : Report) : r.counts.map (·.1) = r.violatedRules := by
  unfold counts
  rw [List.map_map]
  exact List.map_id _

/-- Every violation is counted once. -/
theorem sum_counts (r : Report) : (r.counts.map (·.2)).sum = r.violations.length := by
  -- The violated rules are the names of all violations without repetition, so the counts are the
  -- multiplicities of these names.
  let names := r.violations.map (·.rule)
  have hperm : r.violatedRules.Perm names.dedup := by
    refine (List.perm_ext_iff_of_nodup r.nodup_violatedRules names.nodup_dedup).mpr ?_
    intro x
    rw [mem_violatedRules, List.mem_dedup, List.mem_map]
  have hcount (x : String) : (r.byRule x).length = names.count x := by
    unfold byRule
    rw [← List.countP_eq_length_filter, List.count, List.countP_map]
    rfl
  calc (r.counts.map (·.2)).sum = (r.violatedRules.map fun x => names.count x).sum := by
        unfold counts
        rw [List.map_map]
        simp only [Function.comp_def, hcount]
    _ = (names.dedup.map fun x => names.count x).sum := (hperm.map _).sum_eq
    _ = names.length := List.sum_map_count_dedup_eq_length names
    _ = r.violations.length := List.length_map _

/-- How often a rule is violated according to the counts, where rules that are not counted are not
violated. -/
def count (r : Report) (rule : String) : Nat := (r.counts.lookup rule).getD 0

theorem lookup_map_pair {β : Type} (f : String → β) (names : List String) (x : String) :
    (names.map fun y => (y, f y)).lookup x = if x ∈ names then some (f x) else none := by
  induction names with
  | nil => rfl
  | cons y ys ih =>
    rw [List.map_cons, List.lookup_cons, ih]
    by_cases hy : x = y
    · subst hy
      simp
    · simp [hy, beq_false_of_ne hy]

theorem count_eq (r : Report) (rule : String) : r.count rule = (r.byRule rule).length := by
  unfold count counts
  rw [lookup_map_pair]
  split
  · rfl
  · rename_i hrule
    have hnone : ∀ v ∈ r.violations, ¬(v.rule == rule) = true := by
      intro v hv hname
      exact hrule ((r.mem_violatedRules rule).mpr ⟨v, hv, beq_iff_eq.mp hname⟩)
    unfold byRule
    rw [List.filter_eq_nil_iff.mpr hnone]
    rfl

theorem count_eq_countOf (r : Report) (rule : String) :
    r.count rule = Engine.countOf rule r.violations := by
  rw [count_eq, byRule, ← List.countP_eq_length_filter]
  rfl

/-- The counts hold the rules that are violated at all. -/
theorem mem_counts_iff_count (r : Report) (rule : String) (n : Nat) :
    (rule, n) ∈ r.counts ↔ 0 < n ∧ n = r.count rule := by
  have hoccurs : (∃ v ∈ r.violations, v.rule = rule) ↔ 0 < (r.byRule rule).length := by
    unfold byRule
    rw [← List.countP_eq_length_filter, List.countP_pos_iff]
    simp only [beq_iff_eq]
  rw [mem_counts, count_eq, hoccurs]
  constructor
  · rintro ⟨hpos, rfl⟩
    exact ⟨hpos, rfl⟩
  · rintro ⟨hpos, rfl⟩
    exact ⟨hpos, rfl⟩

/-- Reports with the same violations in different orders have the same counts. -/
theorem counts_perm {a b : Report} (h : a.violations.Perm b.violations) :
    a.counts.Perm b.counts := by
  have hnodup (r : Report) : r.counts.Nodup :=
    List.Nodup.of_map Prod.fst (by rw [map_fst_counts]; exact r.nodup_violatedRules)
  have hlength (rule : String) : (a.byRule rule).length = (b.byRule rule).length :=
    (h.filter _).length_eq
  refine (List.perm_ext_iff_of_nodup (hnodup a) (hnodup b)).mpr ?_
  rintro ⟨rule, n⟩
  rw [mem_counts_iff_count, mem_counts_iff_count, count_eq, count_eq, hlength]

end Report

theorem Engine.count_report (e : Engine) (p : Policy) (units : List SourceUnit) (rule : String) :
    (e.report p units).count rule = countOf rule (e.violations p units) :=
  Report.count_eq_countOf _ _

end Grader
