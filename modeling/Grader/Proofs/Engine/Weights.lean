import Grader.Proofs.Engine.Counts
import Grader.Proofs.Engine.Switch

/-! Weights. What a report finds depends on which rules a policy enables, on its name lists and on
whether submissions are real, and on nothing else; the weights of a policy decide the points alone,
and of these only the weights of ordinary rules and of unparsable submissions. -/

namespace Grader

/-- Two policies agree on what is looked for, whatever it costs. -/
structure Policy.Agrees (p q : Policy) : Prop where
  enabled : ∀ n, (q.rules n).enabled = (p.rules n).enabled
  lists : q.lists = p.lists
  realistic : q.realistic = p.realistic

namespace Catalogue

variable {c : Catalogue} {p q : Policy}

section

variable (h : p.Agrees q)

include h

theorem runs_of_agrees (n : RuleName) : q.runs n = p.runs n := by
  unfold Policy.runs
  rw [h.enabled, h.realistic]

theorem found_of_agrees (n : RuleName) (u : SourceUnit) :
    (c.rule n).found q u = (c.rule n).found p u := by
  unfold Rule.found
  rw [isOn_rule, isOn_rule, runs_of_agrees h, check_congr h.lists]

theorem failed_of_agrees (n : RuleName) (u : SourceUnit) :
    (c.rule n).failed q u = (c.rule n).failed p u := by
  unfold Rule.failed
  rw [isOn_rule, isOn_rule, runs_of_agrees h, check_congr h.lists]

theorem contained_of_agrees (n : RuleName) (u : SourceUnit) :
    (c.rule n).Contained q u ↔ (c.rule n).Contained p u := by
  rw [contained_rule_iff, contained_rule_iff, runs_of_agrees h, Rule.yielded_congr h.lists]

theorem violations_of_agrees (units : List SourceUnit) :
    c.engine.violations q units = c.engine.violations p units := by
  have hfound (u : SourceUnit) : c.engine.found q u = c.engine.found p u := by
    rw [found_engine, found_engine]
    simp only [found_of_agrees h]
  exact Engine.violations_congr hfound units

theorem diagnostics_of_agrees (units : List SourceUnit) :
    units.flatMap (c.engine.failed q) = units.flatMap (c.engine.failed p) := by
  have hfailed (u : SourceUnit) : c.engine.failed q u = c.engine.failed p u := by
    unfold Engine.failed engine
    simp only [List.flatMap_map, failed_of_agrees h]
  exact List.flatMap_congr fun u _ => hfailed u

/-- An evaluation under one policy succeeds exactly if the one under the other does. -/
theorem evaluate_of_agrees {units : List SourceUnit} {a : Report}
    (ha : c.engine.evaluate p units = .ok a) :
    c.engine.evaluate q units = .ok (c.engine.report q units) := by
  have hcontained := ((c.evaluate_eq_ok_iff p).mp ha).1
  refine (c.evaluate_eq_ok_iff q).mpr ⟨?_, rfl⟩
  intro u hu hparsable n hn
  exact (contained_of_agrees h n u).mpr (hcontained u hu hparsable n hn)

/-- Where the prices of ordinary rules are the same, so are the points. -/
theorem points_of_agrees (units : List SourceUnit)
    (hunparsable : q.syntaxErrorPenalty = p.syntaxErrorPenalty)
    (hrules : ∀ n, Rule.isAboutCheating n = false → q.rules n = p.rules n) :
    c.engine.points q (c.engine.violations q units) =
      c.engine.points p (c.engine.violations p units) := by
  have hprice (vs : List Violation) (n : RuleName) : price q vs n = price p vs n := by
    unfold price
    cases hn : Rule.isAboutCheating n with
    | true => rfl
    | false => rw [hrules n hn]
  -- The violations are the same, so that only their prices are left to compare.
  rw [points_engine, points_engine, violations_of_agrees h, hunparsable]
  congr 2
  exact List.map_congr_left fun n _ => hprice _ n

end

theorem countOf_syntaxRule (units : List SourceUnit) :
    Engine.countOf syntaxRule (c.engine.violations p units) =
      units.countP fun u => !u.parsable := by
  have hunit (u : SourceUnit) : Engine.countOf syntaxRule (c.engine.found p u) =
      if !u.parsable then 1 else 0 := by
    rw [found_engine]
    cases u.parsable with
    | false => rfl
    | true =>
      -- The rules are shown the submission, and none of them has the name.
      refine List.countP_eq_zero.mpr ?_
      intro v hv hname
      obtain ⟨n, -, hn⟩ := List.mem_flatMap.mp hv
      have htext := (c.mem_found_rule p n u hn).1
      exact n.text_ne_syntaxRule (htext.symm.trans (beq_iff_eq.mp hname))
  rw [Engine.countOf_violations]
  simp only [hunit]
  induction units with
  | nil => rfl
  | cons u units ih => rw [List.map_cons, List.sum_cons, ih, List.countP_cons, Nat.add_comm]

/-- The ordinary rules of the catalogue that are violated. -/
def chargedRules (c : Catalogue) (r : Report) : List RuleName :=
  c.names.filter fun n => !Rule.isAboutCheating n && decide (0 < r.count n.text)

/-- What a report costs: a price for every unparsable submission, and for every ordinary rule that
is violated its penalty, once or as often as it is violated. -/
def bill (c : Catalogue) (p : Policy) (units : List SourceUnit) (r : Report) : Nat :=
  p.syntaxErrorPenalty * (units.countP fun u => !u.parsable) +
    ((c.chargedRules r).map fun n =>
      if (p.rules n).perOccurrence then (p.rules n).penalty * r.count n.text
      else (p.rules n).penalty).sum

theorem deduction_report (units : List SourceUnit) :
    (c.engine.report p units).deduction = c.bill p units (c.engine.report p units) := by
  have hprice (n : RuleName) : price p (c.engine.violations p units) n =
      if !Rule.isAboutCheating n && decide (0 < (c.engine.report p units).count n.text) then
        if (p.rules n).perOccurrence then
          (p.rules n).penalty * (c.engine.report p units).count n.text
        else (p.rules n).penalty
      else 0 := by
    rw [Engine.count_report]
    unfold price RuleSettings.deduction
    cases Rule.isAboutCheating n with
    | true => rfl
    | false =>
      rcases Nat.eq_zero_or_pos (Engine.countOf n.text (c.engine.violations p units)) with h | h
      · simp [h]
      · simp [h, h.ne']
  calc c.engine.points p (c.engine.violations p units)
      = p.syntaxErrorPenalty * Engine.countOf syntaxRule (c.engine.violations p units) +
          (c.names.map (price p (c.engine.violations p units))).sum := c.points_engine p units
    _ = c.bill p units (c.engine.report p units) := by
        unfold bill chargedRules
        rw [countOf_syntaxRule, sum_map_filter]
        congr 2
        exact List.map_congr_left fun n _ => hprice n

/-- Policies that look for the same find the same, whatever it costs. Under each of them a report
costs its bill, which is a natural number, so that nothing found ever gives points back; and the
weights of rules about cheating are not on the bill. -/
theorem weights_only_cost (c : Catalogue) (p q : Policy) (h : p.Agrees q)
    (units : List SourceUnit) (a : Report) (ha : c.engine.evaluate p units = .ok a) :
    a.deduction = c.bill p units a ∧
    ∃ b, c.engine.evaluate q units = .ok b ∧
      b.violations = a.violations ∧ b.counts = a.counts ∧ b.diagnostics = a.diagnostics ∧
      b.integrityViolated = a.integrityViolated ∧
      b.deduction = c.bill q units b ∧
      (q.syntaxErrorPenalty = p.syntaxErrorPenalty →
        (∀ n, Rule.isAboutCheating n = false → q.rules n = p.rules n) →
        b.deduction = a.deduction) := by
  obtain ⟨-, rfl⟩ := (c.evaluate_eq_ok_iff p).mp ha
  have hviolations : (c.engine.report q units).violations =
      (c.engine.report p units).violations := violations_of_agrees h units
  refine ⟨deduction_report units, c.engine.report q units, evaluate_of_agrees h ha, hviolations,
    ?_, diagnostics_of_agrees h units, ?_, deduction_report units, points_of_agrees h units⟩
  · -- Counts are made of the violations, and so is the sign of cheating.
    unfold Report.counts Report.violatedRules Report.byRule
    rw [hviolations]
  · unfold Report.integrityViolated
    rw [hviolations]

/-- The policy under which cheating has a penalty and other violations have the usual one. -/
def costlyCheating : Policy :=
  { Policy.standard with
    rules := fun r => { enabled := true, penalty := if Rule.isAboutCheating r then 50 else 10 }
    maxScore := 7
    maxScore_pos := Nat.succ_pos 6 }

/-- Two loops and a call of `exec` cost the penalties of the loops, whatever cheating costs. -/
theorem weights_only_cost_costlyCheating : ∃ a b,
    standard.engine.evaluate Policy.strict loopUnits = .ok a ∧
    standard.engine.evaluate costlyCheating loopUnits = .ok b ∧
    a.deduction = 20 ∧ b.deduction = a.deduction ∧ b.violations = a.violations := by
  have hagrees : Policy.strict.Agrees costlyCheating := ⟨fun _ => rfl, rfl, rfl⟩
  have hordinary : ∀ n, Rule.isAboutCheating n = false →
      costlyCheating.rules n = Policy.strict.rules n := by
    intro n
    cases n <;> decide
  have hrun := standard.evaluate_of_isContained Policy.strict standard_isContained loopUnits
  obtain ⟨ha, b, hb, hviolations, -, -, -, -, hdeduction⟩ :=
    weights_only_cost standard Policy.strict costlyCheating hagrees loopUnits _ hrun
  have hbill : standard.bill Policy.strict loopUnits
      (standard.engine.report Policy.strict loopUnits) = 20 := by
    unfold bill chargedRules
    simp only [Engine.count_report, Engine.countOf_violations]
    decide +kernel
  exact ⟨_, b, hrun, hb, ha.trans hbill, hdeduction rfl hordinary, hviolations⟩

end Catalogue

end Grader
