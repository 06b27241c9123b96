import Grader.Proofs.Engine.Report

/-! Catalogues of the ten rules: some of them, in any order, each of which may fail on any
submission after some of its violations. The policy reaches such a rule in two ways only: it says
whether the rule applies, and the rule reads its name lists. -/

namespace Grader

/-- How a rule fails on a submission where it would give some violations: after how many of them,
and with what. -/
abbrev Fault := SourceUnit → List Violation → Option (Nat × Failure)

namespace Rule

/-- The violations that the rule of a name gives if nothing stops it. -/
def yielded (n : RuleName) (p : Policy) (u : SourceUnit) : List Violation :=
  (findings n u p).map (Finding.violation n.text (severityOf n) u)

/-- The rule of a name with a fault. -/
def faulty (n : RuleName) (fault : Fault) : Rule :=
  { ofName n with
    check := fun u p =>
      match fault u (yielded n p u) with
      | none => ⟨yielded n p u, none⟩
      | some (count, f) => ⟨(yielded n p u).take count, some f⟩ }

/-- An interrupted rule is one with a fault. -/
theorem interrupted_ofName (n : RuleName) (count : Nat) (f : Failure) :
    (ofName n).interrupted count f = faulty n fun _ found => some (count,
      if found.length < count || f.kind == "StopIteration" then exhausted else f) := rfl

/-- The findings of a rule depend on the policy through its name lists alone. -/
theorem yielded_congr {p q : Policy} (h : p.lists = q.lists) (n : RuleName) (u : SourceUnit) :
    yielded n p u = yielded n q u := by
  unfold yielded
  cases n <;>
    simp only [findings, importFindings, loopFindings, methodFindings, lambdaFindings,
      innerClassFindings, collectionFindings, consoleFindings, globalFindings, cheatImportFindings,
      cheatCallFindings, h]

theorem mem_yielded {n : RuleName} {p : Policy} {u : SourceUnit} {v : Violation}
    (h : v ∈ yielded n p u) : v.rule = n.text ∧ v.severity = severityOf n := by
  obtain ⟨_, _, rfl⟩ := List.mem_map.mp h
  exact ⟨rfl, rfl⟩

end Rule

theorem RuleName.text_injective : Function.Injective RuleName.text :=
  fun _ _ => RuleName.text_inj.mp

/-- No rule is named like the violation of unparsable submissions. -/
theorem RuleName.text_ne_syntaxRule (n : RuleName) : n.text ≠ syntaxRule := by
  cases n <;> decide

namespace Policy

theorem cost_text (p : Policy) (n : RuleName) (k : Nat) :
    p.cost n.text k = (p.rules n).deduction k := by
  simp only [cost, settings_text]

/-- Whether a rule applies: it is enabled, and if it is about cheating, submissions are real. -/
def runs (p : Policy) (n : RuleName) : Bool :=
  (p.rules n).enabled && (p.realistic || !Rule.isAboutCheating n)

end Policy

/-- A catalogue of some of the ten rules, each with a fault. -/
structure Catalogue where
  names : List RuleName
  nodup_names : names.Nodup
  fault : RuleName → Fault

namespace Catalogue

def standard : Catalogue := ⟨RuleName.all, by decide, fun _ _ _ => none⟩

def rule (c : Catalogue) (n : RuleName) : Rule := Rule.faulty n (c.fault n)

def engine (c : Catalogue) : Engine where
  rules := c.names.map c.rule
  nodup_names := by
    rw [List.map_map]
    exact List.Nodup.map RuleName.text_injective c.nodup_names

theorem engine_standard : standard.engine = Engine.standard := rfl

/-- Every failure in the catalogue is ordinary and described. -/
def IsContained (c : Catalogue) : Prop :=
  ∀ n u found count f, c.fault n u found = some (count, f) →
    ∃ description, f.handled = .ok description

variable (c : Catalogue) (p : Policy) (n : RuleName) (u : SourceUnit)

theorem applies_rule : (c.rule n).applies p = .ok (p.runs n) := by
  have henabled : p.isEnabled n.text = .ok (p.rules n).enabled := by
    simp only [Policy.isEnabled, Policy.settings_text, Except.map]
  unfold Rule.applies Policy.runs
  change (if Rule.isAboutCheating n && !p.realistic then _ else p.isEnabled n.text) = _
  cases Rule.isAboutCheating n <;> cases p.realistic <;> simp [henabled]

theorem isOn_rule : (c.rule n).isOn p = p.runs n := Rule.isOn_of_applies (c.applies_rule p n)

/-- A rule contributes all that it gives or nothing. -/
theorem found_rule : (c.rule n).found p u =
    if p.runs n = true ∧ c.fault n u (Rule.yielded n p u) = none then Rule.yielded n p u
    else [] := by
  unfold Rule.found
  rw [isOn_rule]
  simp only [rule, Rule.faulty]
  cases p.runs n <;> cases c.fault n u (Rule.yielded n p u) <;> simp

theorem mem_found_rule {v : Violation} (h : v ∈ (c.rule n).found p u) :
    v.rule = n.text ∧ v.severity = Rule.severityOf n := by
  rw [found_rule] at h
  split at h
  · exact Rule.mem_yielded h
  · simp at h

theorem found_engine : c.engine.found p u =
    if u.parsable then c.names.flatMap fun n => (c.rule n).found p u
    else [Engine.syntaxViolation u] := by
  unfold Engine.found engine
  rw [List.flatMap_map]

theorem severity_of_mem_violations {units : List SourceUnit} {v : Violation}
    (h : v ∈ c.engine.violations p units) (hv : v.rule = n.text) :
    v.severity = Rule.severityOf n := by
  obtain ⟨u, -, hmem⟩ := Engine.mem_violations.mp h
  rw [found_engine] at hmem
  split at hmem
  · obtain ⟨m, -, hm⟩ := List.mem_flatMap.mp hmem
    obtain ⟨hrule, hseverity⟩ := c.mem_found_rule p m u hm
    rw [← RuleName.text_injective (hrule.symm.trans hv)]
    exact hseverity
  · rw [List.mem_singleton.mp hmem] at hv
    exact absurd hv.symm n.text_ne_syntaxRule

/-- An ordinary rule is charged if it is violated, and a rule about cheating never. -/
theorem isCharged_violations (units : List SourceUnit) :
    Engine.isCharged n.text (c.engine.violations p units) = true ↔
      Rule.isAboutCheating n = false ∧
        0 < Engine.countOf n.text (c.engine.violations p units) := by
  unfold Engine.isCharged Engine.countOf
  rw [List.any_eq_true, List.countP_pos_iff]
  have hseverity (v : Violation) (hv : v ∈ c.engine.violations p units) (hn : v.rule = n.text) :
      v.severity = .ordinary ↔ Rule.isAboutCheating n = false := by
    rw [c.severity_of_mem_violations p n hv hn]
    unfold Rule.severityOf
    cases Rule.isAboutCheating n <;> simp
  constructor
  · rintro ⟨v, hv, hboth⟩
    simp only [Bool.and_eq_true, beq_iff_eq] at hboth
    exact ⟨(hseverity v hv hboth.2).mp hboth.1, v, hv, by simpa using hboth.2⟩
  · rintro ⟨hordinary, v, hv, hn⟩
    have hn' : v.rule = n.text := by simpa using hn
    refine ⟨v, hv, ?_⟩
    simp only [Bool.and_eq_true, beq_iff_eq]
    exact ⟨(hseverity v hv hn').mpr hordinary, hn'⟩

/-- The points that the violations of a rule cost: none if the rule is about cheating. -/
def price (p : Policy) (vs : List Violation) (n : RuleName) : Nat :=
  if Rule.isAboutCheating n then 0 else (p.rules n).deduction (Engine.countOf n.text vs)

/-- The points of a report are the price of every rule and that of unparsable submissions. -/
theorem points_engine (units : List SourceUnit) :
    c.engine.points p (c.engine.violations p units) =
      p.syntaxErrorPenalty * Engine.countOf syntaxRule (c.engine.violations p units) +
        (c.names.map (price p (c.engine.violations p units))).sum := by
  have hprice (n : RuleName) :
      (if Engine.isCharged n.text (c.engine.violations p units) then
        p.cost n.text (Engine.countOf n.text (c.engine.violations p units)) else 0) =
      price p (c.engine.violations p units) n := by
    have hcharged := c.isCharged_violations p n units
    unfold price
    rw [Policy.cost_text]
    by_cases hn : Engine.isCharged n.text (c.engine.violations p units) = true
    · rw [if_pos hn, (hcharged.mp hn).1]
      rfl
    · rw [if_neg hn]
      -- What is not charged is about cheating or does not occur, and costs nothing either way.
      cases hcheat : Rule.isAboutCheating n with
      | true => rfl
      | false =>
        have hzero : Engine.countOf n.text (c.engine.violations p units) = 0 := by
          by_contra hne
          exact hn (hcharged.mpr ⟨hcheat, Nat.pos_of_ne_zero hne⟩)
        rw [hzero]
        rfl
  unfold Engine.points engine
  rw [List.map_map]
  congr 2
  exact List.map_congr_left fun n _ => hprice n

/-- The points of a report, counted submission by submission, in whatever order it has them. -/
theorem deduction_report_eq_sum (units : List SourceUnit) :
    (c.engine.report p units).deduction =
      p.syntaxErrorPenalty *
          (units.map fun u => Engine.countOf syntaxRule (c.engine.found p u)).sum +
        (c.names.map fun n => if Rule.isAboutCheating n then 0 else (p.rules n).deduction
          (units.map fun u => Engine.countOf n.text (c.engine.found p u)).sum).sum := by
  have hprice : price p (c.engine.violations p units) = fun n =>
      if Rule.isAboutCheating n then 0 else (p.rules n).deduction
        (units.map fun u => Engine.countOf n.text (c.engine.found p u)).sum := by
    funext n
    rw [price, Engine.countOf_violations]
  rw [← hprice, ← Engine.countOf_violations]
  exact c.points_engine p units

theorem sum_map_filter {α : Type} (f : α → Nat) (q : α → Bool) (l : List α) :
    ((l.filter q).map f).sum = (l.map fun x => if q x then f x else 0).sum := by
  induction l with
  | nil => rfl
  | cons x l ih =>
    rw [List.map_cons, List.sum_cons, ← ih]
    by_cases hx : q x = true
    · rw [List.filter_cons_of_pos hx, if_pos hx, List.map_cons, List.sum_cons]
    · rw [List.filter_cons_of_neg hx, if_neg hx, Nat.zero_add]

theorem priced (vs : List Violation) : c.engine.Priced p vs := by
  intro r hr _
  obtain ⟨n, -, rfl⟩ := List.mem_map.mp hr
  exact ⟨p.rules n, p.settings_text n⟩

/-- A rule of the catalogue is contained unless it applies and its fault leaves the evaluation. -/
theorem contained_rule_iff : (c.rule n).Contained p u ↔
    (p.runs n = true → ∀ count f, c.fault n u (Rule.yielded n p u) = some (count, f) →
      ∃ description, f.handled = .ok description) := by
  have hfailure (f : Failure) : ((c.rule n).check u p).failure = some f ↔
      ∃ count, c.fault n u (Rule.yielded n p u) = some (count, f) := by
    simp only [rule, Rule.faulty]
    cases c.fault n u (Rule.yielded n p u) with
    | none => simp
    | some x => obtain ⟨count, g⟩ := x; simp
  constructor
  · intro hc hruns count f hf
    exact hc.handled ((c.isOn_rule p n).trans hruns) f ((hfailure f).mpr ⟨count, hf⟩)
  · intro h
    refine ⟨⟨p.runs n, c.applies_rule p n⟩, ?_⟩
    intro hon f hf
    obtain ⟨count, hfault⟩ := (hfailure f).mp hf
    exact h ((c.isOn_rule p n).symm.trans hon) count f hfault

/-- An evaluation succeeds exactly when no failure leaves it. -/
theorem evaluate_eq_ok_iff {units : List SourceUnit} {r : Report} :
    c.engine.evaluate p units = .ok r ↔
      (∀ u ∈ units, u.parsable = true → ∀ n ∈ c.names, (c.rule n).Contained p u) ∧
        r = c.engine.report p units := by
  rw [Engine.evaluate_eq_ok_iff]
  have hcontained (u : SourceUnit) : c.engine.Contained p u ↔
      (u.parsable = true → ∀ n ∈ c.names, (c.rule n).Contained p u) := by
    unfold Engine.Contained engine
    simp only [List.forall_mem_map]
  simp only [hcontained, c.priced p, true_and]

/-- A catalogue whose failures are all contained can always be evaluated. -/
theorem evaluate_of_isContained (h : c.IsContained) (units : List SourceUnit) :
    c.engine.evaluate p units = .ok (c.engine.report p units) := by
  refine (c.evaluate_eq_ok_iff p).mpr ⟨?_, rfl⟩
  intro u _ _ n _
  exact (c.contained_rule_iff p n u).mpr fun _ count f hf => h n u _ count f hf

theorem standard_isContained : standard.IsContained := by
  intro n u found count f h
  cases h

end Catalogue

/-- The rules that are there by default always come to a report. -/
theorem Engine.evaluate_standard (p : Policy) (units : List SourceUnit) :
    Engine.standard.evaluate p units = .ok (Engine.standard.report p units) :=
  Catalogue.standard.evaluate_of_isContained p Catalogue.standard_isContained units

end Grader
