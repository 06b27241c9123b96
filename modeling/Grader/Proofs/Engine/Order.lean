import Grader.Proofs.Engine.Catalogue
import Grader.Proofs.Engine.Counts
import Grader.Proofs.Sorting

/-! The order of a report. Every violation has an origin: a submission, a rule of the catalogue and
a place among what the rule gave. The report holds the violations of all origins, ordered by
submission, line and column, and where these agree by rule and place. -/

namespace Grader

/-- A violation with its origin, given by three numbers. -/
structure Contribution where
  /-- The number of the submission. -/
  unit : Nat
  /-- The number of the rule in the catalogue. -/
  rule : Nat
  /-- The number of the violation among those that the rule gave. -/
  place : Nat
  violation : Violation
  deriving DecidableEq

namespace Contribution

/-- The origin, in the order in which violations are collected. -/
def origin (c : Contribution) : Nat ×ₗ Nat ×ₗ Nat := toLex (c.unit, toLex (c.rule, c.place))

/-- What decides the order of a report: submission, line, column, rule, place. -/
def key (c : Contribution) : Nat ×ₗ Int ×ₗ Int ×ₗ Nat ×ₗ Nat :=
  toLex (c.unit, toLex (c.violation.position.line, toLex (c.violation.position.column,
    toLex (c.rule, c.place))))

def collected (c : Contribution) : Nat × Violation := (c.unit, c.violation)

end Contribution

namespace Engine

/-- What a submission with a number contributes: one violation if it does not parse, and otherwise
all that the rules give which apply and do not fail. -/
def contributionsOf (e : Engine) (p : Policy) (n : Nat) (u : SourceUnit) : List Contribution :=
  if u.parsable then
    e.rules.zipIdx.flatMap fun (r, i) => (r.found p u).zipIdx.map fun (v, j) => ⟨n, i, j, v⟩
  else [⟨n, 0, 0, syntaxViolation u⟩]

def contributions (e : Engine) (p : Policy) (units : List SourceUnit) : List Contribution :=
  units.zipIdx.flatMap fun (u, n) => e.contributionsOf p n u

theorem pairwise_zipIdx {α : Type} (l : List α) : l.zipIdx.Pairwise fun a b => a.2 < b.2 := by
  rw [← List.pairwise_map (f := Prod.snd), List.zipIdx_map_snd]
  exact List.pairwise_lt_range'

theorem unit_of_mem_contributionsOf {e : Engine} {p : Policy} {n : Nat} {u : SourceUnit}
    {c : Contribution} (h : c ∈ e.contributionsOf p n u) : c.unit = n := by
  unfold contributionsOf at h
  split at h
  · simp only [List.mem_flatMap, List.mem_map] at h
    obtain ⟨_, _, _, _, rfl⟩ := h
    rfl
  · rw [List.mem_singleton.mp h]

/-- Contributions are listed in the order of their origins. -/
theorem pairwise_origin (e : Engine) (p : Policy) (units : List SourceUnit) :
    (e.contributions p units).Pairwise fun a b => a.origin < b.origin := by
  have hrule (n : Nat) (u : SourceUnit) (r : Rule) (i : Nat) :
      ((r.found p u).zipIdx.map fun (v, j) => (⟨n, i, j, v⟩ : Contribution)).Pairwise
        fun a b => a.origin < b.origin := by
    rw [List.pairwise_map]
    refine (pairwise_zipIdx _).imp ?_
    intro a b hab
    simp only [Contribution.origin, Prod.Lex.toLex_lt_toLex, lt_self_iff_false, true_and, false_or,
      hab]
  have hunit (n : Nat) (u : SourceUnit) :
      (e.contributionsOf p n u).Pairwise fun a b => a.origin < b.origin := by
    unfold contributionsOf
    split
    · -- Two violations of one rule differ in their places, and others in their rules.
      refine List.pairwise_flatMap.mpr ⟨fun x _ => hrule n u x.1 x.2, ?_⟩
      refine (pairwise_zipIdx _).imp ?_
      intro x y hxy a ha b hb
      obtain ⟨_, _, rfl⟩ := List.mem_map.mp ha
      obtain ⟨_, _, rfl⟩ := List.mem_map.mp hb
      simp only [Contribution.origin, Prod.Lex.toLex_lt_toLex, lt_self_iff_false, true_and,
        false_or, hxy, true_or]
    · exact List.pairwise_singleton _ _
  refine List.pairwise_flatMap.mpr ⟨fun x _ => hunit x.2 x.1, ?_⟩
  refine (pairwise_zipIdx _).imp ?_
  intro x y hxy a ha b hb
  -- Violations of different submissions differ in their first number already.
  have hlt : a.unit < b.unit := by
    rw [unit_of_mem_contributionsOf ha, unit_of_mem_contributionsOf hb]
    exact hxy
  simp only [Contribution.origin, Prod.Lex.toLex_lt_toLex, hlt, true_or]

/-- Without rule and place, the contributions are what is collected. -/
theorem map_collected_contributions (e : Engine) (p : Policy) (units : List SourceUnit) :
    (e.contributions p units).map Contribution.collected = (e.collected p units).violations := by
  have hrules (u : SourceUnit) (n : Nat) :
      (e.rules.zipIdx.flatMap fun x => (x.1.found p u).zipIdx.map fun v => (n, v.1)) =
        e.rules.flatMap fun r => (r.found p u).map (n, ·) := by
    have hplaces (r : Rule) :
        ((r.found p u).zipIdx.map fun v => (n, v.1)) = (r.found p u).map (n, ·) := by
      conv_rhs => rw [← List.zipIdx_map_fst 0 (r.found p u), List.map_map]
      rfl
    conv_rhs => rw [← List.zipIdx_map_fst 0 e.rules, List.flatMap_map]
    simp only [hplaces]
  have hunit (u : SourceUnit) (n : Nat) :
      (e.contributionsOf p n u).map Contribution.collected = (e.found p u).map (n, ·) := by
    unfold contributionsOf found
    split
    · rw [List.map_flatMap, List.map_flatMap, ← hrules u n]
      simp only [List.map_map]
      rfl
    · rfl
  unfold contributions collected
  rw [List.map_flatMap]
  simp only [hunit]

theorem inOrder_iff (a b : Nat × Violation) :
    Part.inOrder a b = true ↔ a.1 < b.1 ∨ a.1 = b.1 ∧
      (a.2.position.line < b.2.position.line ∨ a.2.position.line = b.2.position.line ∧
        a.2.position.column ≤ b.2.position.column) := by
  simp only [Part.inOrder, Position.notAfter, Bool.or_eq_true, Bool.and_eq_true, decide_eq_true_eq,
    beq_iff_eq]

theorem inOrder_trans (a b c : Nat × Violation) (hab : Part.inOrder a b = true)
    (hbc : Part.inOrder b c = true) : Part.inOrder a c = true := by
  rw [inOrder_iff] at *
  omega

theorem inOrder_total (a b : Nat × Violation) :
    (Part.inOrder a b || Part.inOrder b a) = true := by
  rw [Bool.or_eq_true, inOrder_iff, inOrder_iff]
  omega

/-- What stays in front, and on a tie has the smaller origin, has the smaller key. -/
theorem key_lt_key {a b : Contribution} (h : Part.inOrder a.collected b.collected = true)
    (ht : Part.inOrder b.collected a.collected = true → a.origin < b.origin) : a.key < b.key := by
  rw [inOrder_iff] at h ht
  simp only [Contribution.collected, Contribution.origin, Prod.Lex.toLex_lt_toLex] at h ht
  simp only [Contribution.key, Prod.Lex.toLex_lt_toLex]
  omega

def sortedContributions (e : Engine) (p : Policy) (units : List SourceUnit) : List Contribution :=
  (e.contributions p units).mergeSort fun a b => Part.inOrder a.collected b.collected

theorem sortedContributions_perm (e : Engine) (p : Policy) (units : List SourceUnit) :
    (e.sortedContributions p units).Perm (e.contributions p units) :=
  List.mergeSort_perm _ _

/-- One sort by submission, line and column decides all five parts of the key, since it is stable
and contributions are collected in the order of their origins. -/
theorem pairwise_sortedContributions (e : Engine) (p : Policy) (units : List SourceUnit) :
    (e.sortedContributions p units).Pairwise fun a b => a.key < b.key := by
  have hsorted := @Sorting.pairwise_mergeSort_ties Contribution
    (fun a b => Part.inOrder a.collected b.collected)
    (fun a b c => inOrder_trans a.collected b.collected c.collected)
    (fun a b => inOrder_total a.collected b.collected) _ _ (e.pairwise_origin p units)
  exact hsorted.imp fun h => key_lt_key h.1 h.2

theorem violations_eq (e : Engine) (p : Policy) (units : List SourceUnit) :
    e.violations p units = (e.sortedContributions p units).map (·.violation) := by
  have hmap := List.map_mergeSort (f := Contribution.collected) (s := Part.inOrder)
    (r := fun a b => Part.inOrder a.collected b.collected) (l := e.contributions p units)
    (fun _ _ _ _ => rfl)
  unfold violations Part.ordered sortedContributions
  rw [← map_collected_contributions, ← hmap, List.map_map]
  rfl

/-- Keys leave no choice: contributions can be put into their order in one way only. -/
theorem eq_of_perm_of_sorted {xs ys : List Contribution} (h : xs.Perm ys)
    (hx : xs.Pairwise fun a b => a.key < b.key) (hy : ys.Pairwise fun a b => a.key < b.key) :
    xs = ys :=
  h.eq_of_pairwise (fun _ _ _ _ hab hba => absurd hab hba.asymm) hx hy

end Engine

/-- The violations of a report are the contributions of all submissions and rules in the only order
that their keys allow, and its counts and its sign of cheating are those of its violations. -/
theorem Engine.violations_in_key_order (e : Engine) (p : Policy) (units : List SourceUnit)
    (r : Report) (h : e.evaluate p units = .ok r) :
    (∃! cs : List Contribution, cs.Perm (e.contributions p units) ∧
      cs.Pairwise fun a b => a.key < b.key) ∧
    (∀ cs : List Contribution, cs.Perm (e.contributions p units) →
      (cs.Pairwise fun a b => a.key < b.key) → r.violations = cs.map (·.violation)) ∧
    (∀ rule n, (rule, n) ∈ r.counts ↔
      (∃ v ∈ r.violations, v.rule = rule) ∧ n = (r.byRule rule).length) ∧
    (r.counts.map (·.1)).Nodup ∧
    (r.counts.map (·.2)).sum = r.violations.length ∧
    (r.integrityViolated = true ↔ r.cheats ≠ []) := by
  obtain ⟨-, -, rfl⟩ := evaluate_eq_ok_iff.mp h
  have hperm := e.sortedContributions_perm p units
  have hsorted := e.pairwise_sortedContributions p units
  refine ⟨⟨e.sortedContributions p units, ⟨hperm, hsorted⟩, ?_⟩, ?_, Report.mem_counts _, ?_,
    Report.sum_counts _, Report.integrityViolated_iff _⟩
  · rintro cs ⟨hcs, hlt⟩
    exact eq_of_perm_of_sorted (hcs.trans hperm.symm) hlt hsorted
  · intro cs hcs hlt
    rw [eq_of_perm_of_sorted (hcs.trans hperm.symm) hlt hsorted]
    exact e.violations_eq p units
  · rw [Report.map_fst_counts]
    exact Report.nodup_violatedRules _

/-- A call of `map`, and on the next line a loop around a call of `exec`. -/
def loopTree : Source.Tree :=
  .node .root .module none
    [.node .body .exprStmt (some ⟨1, 0⟩)
      [.node .value .call (some ⟨1, 0⟩) [.node .func (.name "map") (some ⟨1, 0⟩) []]],
    .node .body .whileLoop (some ⟨2, 0⟩)
      [.node .test (.name "x") (some ⟨2, 6⟩) [],
      .node .body .exprStmt (some ⟨2, 9⟩)
        [.node .value .call (some ⟨2, 9⟩) [.node .func (.name "exec") (some ⟨2, 9⟩) []]]]]

/-- An unparsable submission and then a parsable one of the same name. -/
def loopUnits : List SourceUnit :=
  [⟨"a.py", .rejected "invalid syntax" 4 3⟩, ⟨"a.py", .parsed loopTree⟩]

/-- The rule about loops gives the loop before the call of `map`; the report turns them round. -/
theorem Engine.violations_of_loopUnits :
    ∃ r, Engine.standard.evaluate Policy.strict loopUnits = .ok r ∧
      r.violations.map (fun v => (v.rule, v.position.line)) =
        [("syntax", 4), ("loops", 1), ("loops", 2), ("cheat_calls", 2)] := by
  have hrun := Catalogue.standard.evaluate_of_isContained Policy.strict
    Catalogue.standard_isContained loopUnits
  have horder := violations_in_key_order _ _ _ _ hrun
  refine ⟨_, hrun, ?_⟩
  rw [horder.2.1
    [⟨0, 0, 0, "syntax", .ordinary, "a.py", ⟨"a.py", 4, 3⟩,
      "Could not parse file: invalid syntax"⟩,
    ⟨1, 1, 1, "loops", .ordinary, "a.py", ⟨"a.py", 1, 1⟩,
      "internal iteration via map() is not allowed, use recursion instead"⟩,
    ⟨1, 1, 0, "loops", .ordinary, "a.py", ⟨"a.py", 2, 1⟩,
      "while loop is not allowed, use recursion instead"⟩,
    ⟨1, 9, 0, "cheat_calls", .cheat, "a.py", ⟨"a.py", 2, 10⟩,
      "[CHEAT] Forbidden call: exec()"⟩]
    (by decide +kernel) (by decide +kernel)]
  decide

end Grader
