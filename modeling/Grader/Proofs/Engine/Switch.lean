import Grader.Proofs.Engine.Order

/-! Switching rules off. Under a policy that switches some rules off and changes nothing else, the
report is the old one without what these rules contributed. Removing violations commutes with the
sort of a report since the sort is stable. -/

namespace Grader

theorem RuleName.text_bne {m n : RuleName} (h : m ≠ n) : (m.text != n.text) = true :=
  bne_iff_ne.mpr fun htext => h (RuleName.text_injective htext)

namespace Policy

/-- The policy with a rule disabled. -/
def disable (p : Policy) (r : RuleName) : Policy :=
  { p with rules := Function.update p.rules r { p.rules r with enabled := false } }

def unrealistic (p : Policy) : Policy := { p with realistic := false }

/-- The policy `q` is `p` without the rules whose names are not kept. -/
structure Keeps (p q : Policy) (keep : String → Bool) : Prop where
  syntax_kept : keep syntaxRule = true
  lists : p.lists = q.lists
  runs : ∀ n, q.runs n = (p.runs n && keep n.text)
  deduction : ∀ n k, (q.rules n).deduction k = (p.rules n).deduction k
  syntaxErrorPenalty : q.syntaxErrorPenalty = p.syntaxErrorPenalty

theorem rules_disable (p : Policy) (r n : RuleName) : (p.disable r).rules n =
    if n = r then { p.rules n with enabled := false } else p.rules n := by
  unfold disable
  by_cases hn : n = r
  · subst hn
    rw [if_pos rfl]
    exact Function.update_self ..
  · rw [if_neg hn]
    exact Function.update_of_ne hn ..

theorem keeps_disable (p : Policy) (r : RuleName) :
    p.Keeps (p.disable r) (fun rule => rule != r.text) := by
  refine ⟨bne_iff_ne.mpr r.text_ne_syntaxRule.symm, rfl, ?_, ?_, rfl⟩
  · intro n
    have hrealistic : (p.disable r).realistic = p.realistic := rfl
    unfold runs
    rw [rules_disable, hrealistic]
    by_cases hn : n = r
    · rw [if_pos hn, hn, bne_self_eq_false, Bool.and_false, Bool.false_and]
    · rw [if_neg hn, RuleName.text_bne hn, Bool.and_true]
  · intro n k
    rw [rules_disable]
    split <;> rfl

/-- On submissions that are not real, the rules that are not about cheating are kept. -/
theorem keeps_unrealistic (p : Policy) :
    p.Keeps p.unrealistic (fun rule =>
      rule != RuleName.cheatImports.text && rule != RuleName.cheatCalls.text) := by
  refine ⟨by decide, rfl, ?_, fun _ _ => rfl, rfl⟩
  intro n
  have hcheat : (n.text != RuleName.cheatImports.text && n.text != RuleName.cheatCalls.text) =
      !Rule.isAboutCheating n := by
    cases n <;> decide
  rw [hcheat]
  unfold runs unrealistic
  cases Rule.isAboutCheating n <;> cases p.realistic <;> simp

end Policy

/-- Of the violations of one rule, all are kept or none. -/
theorem Violation.rule_beq_and_keep (v : Violation) (keep : String → Bool) (rule : String) :
    (v.rule == rule && keep v.rule) = (v.rule == rule && keep rule) := by
  by_cases hv : v.rule = rule
  · rw [hv]
  · rw [beq_false_of_ne hv, Bool.false_and, Bool.false_and]

namespace Report

/-- The report `b` is `a` without what is about rules that are not kept. -/
structure Keeps (a b : Report) (keep : String → Bool) : Prop where
  violations : b.violations = a.violations.filter fun v => keep v.rule
  diagnostics : b.diagnostics = a.diagnostics.filter fun d => keep d.rule

/-- The violations of a rule that is kept stay, and those of another rule go. -/
theorem Keeps.byRule {a b : Report} {keep : String → Bool} (h : a.Keeps b keep) (rule : String) :
    b.byRule rule = if keep rule then a.byRule rule else [] := by
  unfold Report.byRule
  rw [h.violations, List.filter_filter]
  simp only [Violation.rule_beq_and_keep]
  cases keep rule <;> simp

/-- Rules that are kept are violated as often as before. -/
theorem Keeps.counts {a b : Report} {keep : String → Bool} (h : a.Keeps b keep) {rule : String}
    (hrule : keep rule = true) (n : Nat) : (rule, n) ∈ b.counts ↔ (rule, n) ∈ a.counts := by
  have hby := h.byRule rule
  rw [if_pos hrule] at hby
  have hmem (r : Report) : (∃ v ∈ r.violations, v.rule = rule) ↔ r.byRule rule ≠ [] := by
    simp [Report.byRule, List.filter_eq_nil_iff]
  rw [mem_counts, mem_counts, hmem, hmem, hby]

end Report

namespace Catalogue

variable {c : Catalogue} {p q : Policy} {keep : String → Bool}

/-- Where a test is the same for all items, it keeps all of them or none. -/
theorem filter_of_forall_eq {α : Type} {l : List α} {f : α → Bool} {on : Bool}
    (h : ∀ x ∈ l, f x = on) : l.filter f = if on then l else [] := by
  rw [List.filter_congr h]
  cases on <;> simp

theorem check_congr (h : p.lists = q.lists) (n : RuleName) (u : SourceUnit) :
    (c.rule n).check u p = (c.rule n).check u q := by
  simp only [rule, Rule.faulty, Rule.yielded_congr h]

theorem found_of_keeps (h : p.Keeps q keep) (n : RuleName) (u : SourceUnit) :
    (c.rule n).found q u = ((c.rule n).found p u).filter fun v => keep v.rule := by
  have hname : ∀ v ∈ (c.rule n).found p u, keep v.rule = keep n.text := by
    intro v hv
    rw [(c.mem_found_rule p n u hv).1]
  rw [filter_of_forall_eq hname]
  cases hn : keep n.text with
  | true =>
    -- It applies if it did, and gives what it gave, since the lists are the same.
    unfold Rule.found
    rw [isOn_rule, isOn_rule, h.runs, hn, Bool.and_true, check_congr h.lists]
    rfl
  | false =>
    apply Rule.found_of_off
    rw [isOn_rule, h.runs, hn, Bool.and_false]

theorem failed_of_keeps (h : p.Keeps q keep) (n : RuleName) (u : SourceUnit) :
    (c.rule n).failed q u = ((c.rule n).failed p u).filter fun d => keep d.rule := by
  have hname : ∀ d ∈ (c.rule n).failed p u, keep d.rule = keep n.text := by
    intro d hd
    rw [Rule.rule_of_mem_failed hd]
    rfl
  rw [filter_of_forall_eq hname]
  cases hn : keep n.text with
  | true =>
    unfold Rule.failed
    rw [isOn_rule, isOn_rule, h.runs, hn, Bool.and_true, check_congr h.lists]
    rfl
  | false =>
    apply Rule.failed_of_off
    rw [isOn_rule, h.runs, hn, Bool.and_false]

/-- A submission contributes what it did without the rules that are not kept. The violation of an
unparsable one always stays. -/
theorem found_engine_of_keeps (h : p.Keeps q keep) (u : SourceUnit) :
    c.engine.found q u = (c.engine.found p u).filter fun v => keep v.rule := by
  rw [found_engine, found_engine]
  split
  · rw [List.filter_flatMap]
    exact List.flatMap_congr fun n _ => found_of_keeps h n u
  · have hsyntax : keep (Engine.syntaxViolation u).rule = true := h.syntax_kept
    rw [List.filter_singleton, hsyntax]
    rfl

theorem failed_engine_of_keeps (h : p.Keeps q keep) (u : SourceUnit) :
    c.engine.failed q u = (c.engine.failed p u).filter fun d => keep d.rule := by
  unfold Engine.failed engine
  split
  · rw [List.filter_flatMap, List.flatMap_map, List.flatMap_map]
    exact List.flatMap_congr fun n _ => failed_of_keeps h n u
  · rfl

theorem violations_of_keeps (h : p.Keeps q keep) (units : List SourceUnit) :
    c.engine.violations q units =
      (c.engine.violations p units).filter fun v => keep v.rule := by
  have hcollected : (c.engine.collected q units).violations =
      (c.engine.collected p units).violations.filter fun x => keep x.2.rule := by
    unfold Engine.collected
    simp only [List.filter_flatMap, List.filter_map, found_engine_of_keeps h]
    rfl
  -- Dropping what is not kept before the sort is dropping it from the sorted list.
  unfold Engine.violations Engine.Part.ordered
  rw [hcollected, List.filter_map,
    ← Sorting.filter_mergeSort Engine.inOrder_trans Engine.inOrder_total]
  rfl

/-- What leaves the evaluation under the new policy leaves it under the old one. -/
theorem contained_of_keeps (h : p.Keeps q keep) (n : RuleName) (u : SourceUnit)
    (hp : (c.rule n).Contained p u) : (c.rule n).Contained q u := by
  rw [contained_rule_iff] at hp ⊢
  intro hruns count f hfault
  rw [h.runs, Bool.and_eq_true] at hruns
  rw [← Rule.yielded_congr h.lists] at hfault
  exact hp hruns.1 count f hfault

/-- An evaluation that succeeds still does, and its report keeps what it should. -/
theorem evaluate_of_keeps (h : p.Keeps q keep) {units : List SourceUnit} {a : Report}
    (ha : c.engine.evaluate p units = .ok a) :
    ∃ b, c.engine.evaluate q units = .ok b ∧ a.Keeps b keep := by
  obtain ⟨hcontained, rfl⟩ := (c.evaluate_eq_ok_iff p).mp ha
  refine ⟨c.engine.report q units, (c.evaluate_eq_ok_iff q).mpr ⟨?_, rfl⟩, ⟨?_, ?_⟩⟩
  · intro u hu hparsable n hn
    exact contained_of_keeps h n u (hcontained u hu hparsable n hn)
  · exact violations_of_keeps h units
  · unfold Engine.report
    rw [List.filter_flatMap]
    exact List.flatMap_congr fun u _ => failed_engine_of_keeps h u

theorem countOf_filter (keep : String → Bool) (rule : String) (vs : List Violation) :
    Engine.countOf rule (vs.filter fun v => keep v.rule) =
      if keep rule then Engine.countOf rule vs else 0 := by
  unfold Engine.countOf
  rw [List.countP_filter]
  simp only [Violation.rule_beq_and_keep]
  cases keep rule <;> simp

theorem price_of_keeps (h : p.Keeps q keep) (vs : List Violation) (n : RuleName) :
    price q (vs.filter fun v => keep v.rule) n = if keep n.text then price p vs n else 0 := by
  unfold price
  rw [countOf_filter, h.deduction]
  cases keep n.text with
  | true => rfl
  | false =>
    rw [if_neg Bool.false_ne_true, if_neg Bool.false_ne_true]
    split <;> rfl

/-- The points are those of the rules that are kept and of unparsable submissions. -/
theorem points_of_keeps (h : p.Keeps q keep) (units : List SourceUnit) :
    c.engine.points q (c.engine.violations q units) =
      p.syntaxErrorPenalty * Engine.countOf syntaxRule (c.engine.violations p units) +
        (c.names.map fun n =>
          if keep n.text then price p (c.engine.violations p units) n else 0).sum := by
  rw [points_engine, violations_of_keeps h, countOf_filter, h.syntax_kept, if_pos rfl,
    h.syntaxErrorPenalty]
  congr 2
  exact List.map_congr_left fun n _ => price_of_keeps h _ n

theorem countOf_of_not_mem {n : RuleName} (hn : n ∉ c.names) (p : Policy)
    (units : List SourceUnit) : Engine.countOf n.text (c.engine.violations p units) = 0 := by
  unfold Engine.countOf
  rw [List.countP_eq_zero]
  intro v hv hrule
  obtain ⟨u, -, hmem⟩ := Engine.mem_violations.mp hv
  rw [found_engine] at hmem
  split at hmem
  · obtain ⟨m, hm, hfound⟩ := List.mem_flatMap.mp hmem
    have htext := (c.mem_found_rule p m u hfound).1.symm.trans (beq_iff_eq.mp hrule)
    exact hn (RuleName.text_injective htext ▸ hm)
  · rw [List.mem_singleton.mp hmem] at hrule
    exact n.text_ne_syntaxRule (beq_iff_eq.mp hrule).symm

/-- Disabling a rule saves its price. -/
theorem points_disable (r : RuleName) (units : List SourceUnit) :
    c.engine.points p (c.engine.violations p units) =
      c.engine.points (p.disable r) (c.engine.violations (p.disable r) units) +
        price p (c.engine.violations p units) r := by
  rw [points_of_keeps (p.keeps_disable r), points_engine]
  set cost := price p (c.engine.violations p units) with hcost
  by_cases hr : r ∈ c.names
  · -- The rule occurs once, so its price is one summand, and the other summands are the same.
    have hrest : (c.names.erase r).map cost =
        (c.names.erase r).map fun n => if n.text != r.text then cost n else 0 := by
      apply List.map_congr_left
      intro n hn
      have hne : n ≠ r := (c.nodup_names.mem_erase_iff.mp hn).1
      rw [RuleName.text_bne hne, if_pos rfl]
    rw [← List.sum_map_erase cost hr, hrest,
      ← List.sum_map_erase (fun n => if n.text != r.text then cost n else 0) hr,
      bne_self_eq_false, if_neg Bool.false_ne_true]
    omega
  · -- A rule that is not there has nothing to save.
    have hzero : cost r = 0 := by
      rw [hcost, price, countOf_of_not_mem hr]
      split <;> rfl
    have hall : c.names.map cost =
        c.names.map fun n => if n.text != r.text then cost n else 0 := by
      apply List.map_congr_left
      intro n hn
      have hne : n ≠ r := fun h => hr (h ▸ hn)
      rw [RuleName.text_bne hne, if_pos rfl]
    rw [hzero, hall, Nat.add_zero]

/-- Cheating costs no points, so the points do not depend on whether submissions are real. -/
theorem points_unrealistic (units : List SourceUnit) :
    c.engine.points p.unrealistic (c.engine.violations p.unrealistic units) =
      c.engine.points p (c.engine.violations p units) := by
  rw [points_of_keeps p.keeps_unrealistic, points_engine]
  congr 2
  apply List.map_congr_left
  intro n _
  split
  · rfl
  · rename_i hn
    have hcheat : Rule.isAboutCheating n = true := by
      revert hn
      cases n <;> decide
    rw [price, hcheat, if_pos rfl]

/-- Switching a rule off takes its violations and diagnostics out of a report, and its price off the
deduction, and changes nothing else; so do submissions that are not real for both rules about
cheating, which have no price. -/
theorem switch_off (c : Catalogue) (p : Policy) (units : List SourceUnit) :
    (c.IsContained → ∃ a, c.engine.evaluate p units = .ok a) ∧
    ∀ a, c.engine.evaluate p units = .ok a →
      (∀ r : RuleName, ∃ b, c.engine.evaluate (p.disable r) units = .ok b ∧
        b.violations = a.violations.filter (fun v => v.rule != r.text) ∧
        b.diagnostics = a.diagnostics.filter (fun d => d.rule != r.text) ∧
        (∀ rule, rule ≠ r.text → ∀ n, (rule, n) ∈ b.counts ↔ (rule, n) ∈ a.counts) ∧
        (b.deduction : Int) = a.deduction -
          if Rule.isAboutCheating r then 0
          else ((p.rules r).deduction (a.byRule r.text).length : Int)) ∧
      ∃ b, c.engine.evaluate p.unrealistic units = .ok b ∧
        b.violations = a.violations.filter (fun v =>
          v.rule != RuleName.cheatImports.text && v.rule != RuleName.cheatCalls.text) ∧
        b.diagnostics = a.diagnostics.filter (fun d =>
          d.rule != RuleName.cheatImports.text && d.rule != RuleName.cheatCalls.text) ∧
        b.deduction = a.deduction := by
  refine ⟨fun h => ⟨_, c.evaluate_of_isContained p h units⟩, ?_⟩
  intro a ha
  have hreport := ((c.evaluate_eq_ok_iff p).mp ha).2
  constructor
  · intro r
    obtain ⟨b, hb, hkeeps⟩ := evaluate_of_keeps (p.keeps_disable r) ha
    refine ⟨b, hb, hkeeps.violations, hkeeps.diagnostics, ?_, ?_⟩
    · intro rule hrule n
      exact hkeeps.counts (bne_iff_ne.mpr hrule) n
    · have hpoints := points_disable (c := c) (p := p) r units
      have hlength : (a.byRule r.text).length =
          Engine.countOf r.text (c.engine.violations p units) := by
        rw [hreport]
        exact List.countP_eq_length_filter.symm
      have hdeduction : a.deduction = b.deduction + price p (c.engine.violations p units) r := by
        rw [((c.evaluate_eq_ok_iff _).mp hb).2, hreport]
        exact hpoints
      rw [hdeduction, hlength, price]
      split <;> omega
  · obtain ⟨b, hb, hkeeps⟩ := evaluate_of_keeps p.keeps_unrealistic ha
    refine ⟨b, hb, hkeeps.violations, hkeeps.diagnostics, ?_⟩
    rw [((c.evaluate_eq_ok_iff _).mp hb).2, hreport]
    exact points_unrealistic units

/-- A catalogue in which the rule about loops fails after its first violation if there are more. -/
def hasty : Catalogue where
  names := RuleName.all
  nodup_names := standard.nodup_names
  fault n _ found :=
    match n, found with
    | .loops, _ :: _ :: _ => some (1, ⟨"ValueError", "too many", []⟩)
    | _, _ => none

theorem hasty_isContained : hasty.IsContained := by
  intro n u found count f h
  simp only [hasty] at h
  split at h
  · cases h
    exact ⟨_, (Failure.Plain.of_reach rfl).handled⟩
  · cases h

/-- Disabling the rule that fails takes away its diagnostic, and the points of a rule that failed
were not lost in the first place. -/
theorem switch_off_hasty : ∃ a b, hasty.engine.evaluate Policy.strict loopUnits = .ok a ∧
    hasty.engine.evaluate (Policy.strict.disable .loops) loopUnits = .ok b ∧
    a.diagnostics.map (·.rule) = ["loops"] ∧ b.diagnostics = [] ∧ b.deduction = a.deduction := by
  have hrun := hasty.evaluate_of_isContained Policy.strict hasty_isContained loopUnits
  have hdiagnostics : (hasty.engine.report Policy.strict loopUnits).diagnostics.map (·.rule) =
      ["loops"] := by
    decide +kernel
  have hcount : ((hasty.engine.report Policy.strict loopUnits).byRule "loops").length = 0 := by
    calc ((hasty.engine.report Policy.strict loopUnits).byRule "loops").length
        = Engine.countOf "loops" (hasty.engine.violations Policy.strict loopUnits) :=
          List.countP_eq_length_filter.symm
      _ = (loopUnits.map fun u => Engine.countOf "loops"
            (hasty.engine.found Policy.strict u)).sum := Engine.countOf_violations ..
      _ = 0 := by decide +kernel
  obtain ⟨b, hb, -, hb_diagnostics, -, hb_deduction⟩ :=
    ((switch_off hasty Policy.strict loopUnits).2 _ hrun).1 .loops
  refine ⟨_, b, hrun, hb, hdiagnostics, ?_, ?_⟩
  · rw [hb_diagnostics]
    decide +kernel
  · have htext : RuleName.loops.text = "loops" := rfl
    have hcost : (Policy.strict.rules .loops).deduction 0 = 0 := rfl
    rw [htext, hcount, hcost] at hb_deduction
    split at hb_deduction <;> omega

end Catalogue

end Grader
