import Grader.Proofs.Failure
import Grader.Rule.Engine

/-! Reports without failures in the way: what every rule contributes for every submission, and the
report that these contributions make. `evaluate_eq_ok_iff` says when an evaluation succeeds, and
that its report is this one. -/

namespace Grader

/-- The points that violations of a rule cost; a rule that the policy does not know is free. -/
def Policy.cost (p : Policy) (rule : String) (violations : Nat) : Nat :=
  match p.settings rule with
  | .ok s => s.deduction violations
  | .error _ => 0

namespace Rule

/-- Whether the rule applies under a policy, if the policy knows it. -/
def isOn (r : Rule) (p : Policy) : Bool :=
  match r.applies p with
  | .ok on => on
  | .error _ => false

/-- The violations that the rule contributes for a submission: all that it gives, if it applies and
does not fail. -/
def found (r : Rule) (p : Policy) (u : SourceUnit) : List Violation :=
  match r.isOn p, (r.check u p).failure with
  | true, none => (r.check u p).violations
  | _, _ => []

/-- The diagnostics that the rule contributes for a submission: one, if it applies and fails by a
failure that is described. -/
def failed (r : Rule) (p : Policy) (u : SourceUnit) : List Diagnostic :=
  match r.isOn p, (r.check u p).failure with
  | true, some f =>
    match f.handled with
    | .ok description => [Engine.diagnostic r u description]
    | .error _ => []
  | _, _ => []

/-- The policy knows the rule, and a failure of the rule on a submission is ordinary and has been
described. -/
structure Contained (r : Rule) (p : Policy) (u : SourceUnit) : Prop where
  known : ∃ on, r.applies p = .ok on
  handled : r.isOn p = true → ∀ f, (r.check u p).failure = some f →
    ∃ description, f.handled = .ok description

theorem isOn_of_applies {r : Rule} {p : Policy} {on : Bool} (h : r.applies p = .ok on) :
    r.isOn p = on := by
  simp only [isOn, h]

theorem found_of_off {r : Rule} {p : Policy} (h : r.isOn p = false) (u : SourceUnit) :
    r.found p u = [] := by
  simp only [found, h]

theorem failed_of_off {r : Rule} {p : Policy} (h : r.isOn p = false) (u : SourceUnit) :
    r.failed p u = [] := by
  simp only [failed, h]

theorem rule_of_mem_failed {r : Rule} {p : Policy} {u : SourceUnit} {d : Diagnostic}
    (h : d ∈ r.failed p u) : d.rule = r.name := by
  unfold failed at h
  split at h
  · split at h
    · rw [List.mem_singleton.mp h]
      rfl
    · simp at h
  · simp at h

end Rule

namespace Engine

/-- A rule contributes exactly its violations, or its diagnostic, as long as it is contained. -/
theorem contribution_eq_ok_iff {p : Policy} {n : Nat} {u : SourceUnit} {r : Rule} {a : Part} :
    contribution p n u r = .ok a ↔
      r.Contained p u ∧ a = ⟨(r.found p u).map (n, ·), r.failed p u⟩ := by
  unfold contribution
  cases happ : r.applies p with
  | error f =>
    simp only [reduceCtorEq, false_iff, not_and]
    intro hc
    obtain ⟨on, hon⟩ := hc.known
    rw [happ] at hon
    cases hon
  | ok on =>
    have hon := Rule.isOn_of_applies happ
    cases on with
    | false =>
      -- A rule that does not apply is not even asked.
      have hc : r.Contained p u := ⟨⟨false, happ⟩, fun h => by rw [hon] at h; cases h⟩
      simp only [Rule.found_of_off hon, Rule.failed_of_off hon, List.map_nil, hc, true_and,
        Except.ok.injEq, eq_comm]
    | true =>
      unfold inspect
      cases hf : (r.check u p).failure with
      | none =>
        have hc : r.Contained p u := ⟨⟨true, happ⟩, fun _ f h => by rw [hf] at h; cases h⟩
        simp only [Rule.found, Rule.failed, hon, hf, hc, true_and, Except.ok.injEq, eq_comm]
      | some f =>
        have hc : r.Contained p u ↔ ∃ description, f.handled = .ok description :=
          ⟨fun h => h.handled hon f hf, fun h =>
            ⟨⟨true, happ⟩, fun _ g hg => by rw [hf] at hg; cases hg; exact h⟩⟩
        rw [hc]
        cases hd : f.handled with
        | ok description =>
          -- The violations in front of the failure are lost, and a diagnostic takes their place.
          simp [Rule.found, Rule.failed, hon, hf, hd, Except.map, eq_comm]
        | error g => simp [hf, hd, Except.map]

/-- The violations that a submission contributes, as they are collected: that of its syntax if it
does not parse, else those of the rules in the order of the catalogue. -/
def found (e : Engine) (p : Policy) (u : SourceUnit) : List Violation :=
  if u.parsable then e.rules.flatMap (·.found p u) else [syntaxViolation u]

def failed (e : Engine) (p : Policy) (u : SourceUnit) : List Diagnostic :=
  if u.parsable then e.rules.flatMap (·.failed p u) else []

/-- Every rule is contained on a submission, if the rules are shown it. -/
def Contained (e : Engine) (p : Policy) (u : SourceUnit) : Prop :=
  u.parsable = true → ∀ r ∈ e.rules, r.Contained p u

theorem part_eq_ok_iff {e : Engine} {p : Policy} {n : Nat} {u : SourceUnit} {a : Part} :
    e.part p n u = .ok a ↔
      e.Contained p u ∧ a = ⟨(e.found p u).map (n, ·), e.failed p u⟩ := by
  unfold part Contained found failed
  cases hu : u.parsable with
  | false =>
    simp only [Bool.false_eq_true, ↓reduceIte, List.map_cons, List.map_nil, Except.ok.injEq,
      false_implies, true_and, eq_comm]
  | true =>
    have hg : ∀ r ∈ e.rules, ∀ b, contribution p n u r = .ok b →
        b = ⟨(r.found p u).map (n, ·), r.failed p u⟩ :=
      fun r _ b hb => (contribution_eq_ok_iff.mp hb).2
    simp only [↓reduceIte, Traversal.map_eq_ok_iff, Traversal.mapM_eq_ok_iff hg,
      contribution_eq_ok_iff, and_true, true_implies, and_assoc, exists_eq_left,
      exists_and_left, Part.concat, List.flatMap_map, List.map_flatMap]

/-- What all submissions contribute, with the number of the submission at every violation. -/
def collected (e : Engine) (p : Policy) (units : List SourceUnit) : Part :=
  ⟨units.zipIdx.flatMap fun (u, n) => (e.found p u).map (n, ·), units.flatMap (e.failed p)⟩

theorem collect_eq_ok_iff {e : Engine} {p : Policy} {units : List SourceUnit} {a : Part} :
    e.collect p units = .ok a ↔
      (∀ u ∈ units, e.Contained p u) ∧ a = e.collected p units := by
  have hg : ∀ x ∈ units.zipIdx, ∀ b, e.part p x.2 x.1 = .ok b →
      b = ⟨(e.found p x.1).map (x.2, ·), e.failed p x.1⟩ :=
    fun x _ b hb => (part_eq_ok_iff.mp hb).2
  -- Numbers do not matter for containment, so the quantifier runs over the submissions alone.
  have hall : (∀ x ∈ units.zipIdx, e.Contained p x.1) ↔ ∀ u ∈ units, e.Contained p u := by
    conv_rhs => rw [← List.zipIdx_map_fst 0 units]
    exact List.forall_mem_map.symm
  have hd : units.zipIdx.flatMap (fun x => e.failed p x.1) = units.flatMap (e.failed p) := by
    conv_rhs => rw [← List.zipIdx_map_fst 0 units, List.flatMap_map]
  simp only [collect, Traversal.map_eq_ok_iff, Traversal.mapM_eq_ok_iff hg, part_eq_ok_iff,
    and_true, hall, and_assoc, exists_and_left, exists_eq_left, Part.concat, List.flatMap_map,
    hd, collected]

def violations (e : Engine) (p : Policy) (units : List SourceUnit) : List Violation :=
  (e.collected p units).ordered

/-- Violations depend on what each submission contributes, and on nothing else. -/
theorem violations_congr {e e' : Engine} {p p' : Policy} (h : ∀ u, e.found p u = e'.found p' u)
    (units : List SourceUnit) : e.violations p units = e'.violations p' units := by
  unfold violations collected Part.ordered
  simp only [h]

theorem violations_perm (e : Engine) (p : Policy) (units : List SourceUnit) :
    (e.violations p units).Perm (units.flatMap (e.found p)) := by
  have hs : (e.collected p units).violations.map (·.2) = units.flatMap (e.found p) := by
    conv_rhs => rw [← List.zipIdx_map_fst 0 units, List.flatMap_map]
    simp only [collected, List.map_flatMap, List.map_map, Function.comp_def, List.map_id']
  rw [← hs]
  exact (List.mergeSort_perm _ _).map _

theorem mem_violations {e : Engine} {p : Policy} {units : List SourceUnit} {v : Violation} :
    v ∈ e.violations p units ↔ ∃ u ∈ units, v ∈ e.found p u := by
  rw [(e.violations_perm p units).mem_iff, List.mem_flatMap]

/-- A rule has as many violations as it contributes for the submissions together. -/
theorem countOf_violations (e : Engine) (p : Policy) (rule : String) (units : List SourceUnit) :
    countOf rule (e.violations p units) =
      (units.map fun u => countOf rule (e.found p u)).sum := by
  unfold countOf
  rw [(e.violations_perm p units).countP_eq, List.countP_flatMap]
  rfl

theorem countOf_violations_append (e : Engine) (p : Policy) (rule : String)
    (us vs : List SourceUnit) : countOf rule (e.violations p (us ++ vs)) =
      countOf rule (e.violations p us) + countOf rule (e.violations p vs) := by
  rw [countOf_violations, countOf_violations, countOf_violations, List.map_append, List.sum_append]

def points (e : Engine) (p : Policy) (vs : List Violation) : Nat :=
  p.syntaxErrorPenalty * countOf syntaxRule vs +
    (e.rules.map fun r =>
      if isCharged r.name vs then p.cost r.name (countOf r.name vs) else 0).sum

/-- The policy has a price for every rule that is charged. -/
def Priced (e : Engine) (p : Policy) (vs : List Violation) : Prop :=
  ∀ r ∈ e.rules, isCharged r.name vs = true → ∃ s, p.settings r.name = .ok s

theorem charge_eq_ok_iff {p : Policy} {vs : List Violation} {r : Rule} {n : Nat} :
    charge p vs r = .ok n ↔
      (isCharged r.name vs = true → ∃ s, p.settings r.name = .ok s) ∧
        n = if isCharged r.name vs then p.cost r.name (countOf r.name vs) else 0 := by
  unfold charge Policy.cost
  cases isCharged r.name vs with
  | false => simp [eq_comm]
  | true =>
    cases p.settings r.name with
    | error f => simp [Except.map]
    | ok s => simp [Except.map, eq_comm]

theorem deduction_eq_ok_iff {e : Engine} {p : Policy} {vs : List Violation} {n : Nat} :
    e.deduction p vs = .ok n ↔ e.Priced p vs ∧ n = e.points p vs := by
  have hg : ∀ r ∈ e.rules, ∀ b, charge p vs r = .ok b →
      b = if isCharged r.name vs then p.cost r.name (countOf r.name vs) else 0 :=
    fun r _ b hb => (charge_eq_ok_iff.mp hb).2
  simp only [deduction, Traversal.map_eq_ok_iff, Traversal.mapM_eq_ok_iff hg, charge_eq_ok_iff,
    and_true, and_assoc, exists_and_left, exists_eq_left, Priced, points, List.sum]

/-- The report of an evaluation in which nothing fails beyond a rule. -/
def report (e : Engine) (p : Policy) (units : List SourceUnit) : Report :=
  ⟨e.violations p units, units.flatMap (e.failed p), e.points p (e.violations p units)⟩

/-- An evaluation succeeds exactly when every rule is contained on every submission and has a
price where it is charged. -/
theorem evaluate_eq_ok_iff {e : Engine} {p : Policy} {units : List SourceUnit} {r : Report} :
    e.evaluate p units = .ok r ↔
      (∀ u ∈ units, e.Contained p u) ∧ e.Priced p (e.violations p units) ∧
        r = e.report p units := by
  simp only [evaluate, Traversal.bind_eq_ok_iff, collect_eq_ok_iff, deduction_eq_ok_iff, pure,
    Except.pure, Except.ok.injEq]
  constructor
  · rintro ⟨a, ⟨hc, rfl⟩, n, ⟨hp, rfl⟩, rfl⟩
    exact ⟨hc, hp, rfl⟩
  · rintro ⟨hc, hp, rfl⟩
    exact ⟨e.collected p units, ⟨hc, rfl⟩, e.points p (e.violations p units), ⟨hp, rfl⟩, rfl⟩

end Engine

end Grader
