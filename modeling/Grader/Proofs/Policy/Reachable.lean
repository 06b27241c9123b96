import Grader.Grading.Score
import Grader.Proofs.Engine.Catalogue
import Grader.Proofs.Policy.Accepted

/-! The policies that can come about: those that are read from a mapping, and those that changes
make of them. Every one of them has settings for every rule and no other, and its numbers are within
their bounds, so that an evaluation under it and the score that is kept of it cannot fail. -/

namespace Grader.Policy

/-- The policies that are read from mappings, and what changes that succeed make of them. -/
inductive Reachable : Policy → Prop
  | read {es : List (Value × Value)} {p : Policy} (h : ofValue (.dict es) = .ok p) : Reachable p
  | overridden {p q : Policy} {changes : List (String × Value)} (hp : Reachable p)
    (h : p.withOverrides changes = .ok q) : Reachable q
  | toggled {p q : Policy} {toggles : List (String × Value)} (hp : Reachable p)
    (h : p.withRules toggles = .ok q) : Reachable q

/-- What is merged from what a mapping says about the rules. -/
structure Merges (inner : List (Value × Value)) (pairs : List (RuleName × RuleSettings)) :
    Prop where
  read : rulesOf (.dict inner) = .ok (pairs.map .ok)
  names : pairs.map (·.1) = RuleName.all
  unsaid : ∀ r : RuleName, (Value.lookup (.str r.text) inner).getD .none = .none →
    (r, r.settings) ∈ pairs

/-- Settings for every rule and no other, and numbers within their bounds. -/
structure Complete (p : Policy) : Prop where
  keys_rules : p.rulesValue.map (·.1) = RuleName.all.map fun r => .str r.text
  settings_iff : ∀ name, (∃ s, p.settings name = .ok s) ↔ name ∈ RuleName.all.map RuleName.text
  penalty_nonneg : ∀ name s, p.settings name = .ok s → (0 : Int) ≤ s.penalty
  syntaxErrorPenalty_nonneg : (0 : Int) ≤ p.syntaxErrorPenalty
  one_le_maxScore : (1 : Int) ≤ p.maxScore
  resultScale_pos : 0 < p.resultScale

theorem exists_of_withOverrides {p q : Policy} {changes : List (String × Value)}
    (h : p.withOverrides changes = .ok q) : ∃ es, ofValue (.dict es) = .ok q := by
  unfold withOverrides at h
  generalize withEntries p.entries _ = es at h
  cases hvalue : ofValue (.dict es) with
  | error f =>
    rw [hvalue] at h
    cases h
  | ok r =>
    rw [hvalue] at h
    cases h
    exact ⟨es, hvalue⟩

/-- Changes are read like any mapping, so that nothing comes about that no mapping says. -/
theorem Reachable.exists_ofValue {p : Policy} (h : Reachable p) :
    ∃ es, ofValue (.dict es) = .ok p := by
  cases h with
  | read h => exact ⟨_, h⟩
  | overridden _ h => exact exists_of_withOverrides h
  | toggled _ h => exact exists_of_withOverrides h

theorem settings_eq_ok_iff {p : Policy} {name : String} {s : RuleSettings} :
    p.settings name = .ok s ↔ ∃ r : RuleName, name = r.text ∧ s = p.rules r := by
  constructor
  · intro h
    unfold settings at h
    split at h
    · rename_i r hr
      have htext : r.text = name := by simpa using List.find?_some hr
      cases h
      exact ⟨r, htext.symm, rfl⟩
    · cases h
  · rintro ⟨r, rfl, rfl⟩
    exact p.settings_text r

theorem complete (p : Policy) : Complete p where
  keys_rules := by
    unfold rulesValue
    rw [List.map_map]
    rfl
  settings_iff := by
    intro name
    simp only [settings_eq_ok_iff, List.mem_map]
    constructor
    · rintro ⟨_, r, rfl, -⟩
      exact ⟨r, r.mem_all, rfl⟩
    · rintro ⟨r, -, rfl⟩
      exact ⟨p.rules r, r, rfl, rfl⟩
  penalty_nonneg _ _ _ := Int.natCast_nonneg _
  syntaxErrorPenalty_nonneg := Int.natCast_nonneg _
  one_le_maxScore := Int.ofNat_le.mpr p.maxScore_pos
  resultScale_pos := p.resultScale_pos

theorem settlesRules_dict_iff {inner : List (Value × Value)} {rules : RuleName → RuleSettings} :
    SettlesRules (some (.dict inner)) rules ↔
      (∀ e ∈ inner, ∃ r : RuleName, e.1 = .str r.text) ∧
        ∀ r : RuleName, r.Settles (Value.lookup (.str r.text) inner) (rules r) := by
  constructor
  · rintro (_ | ⟨_, hfalse⟩ | ⟨_, _, hknown, hsettles⟩)
    · -- Only the empty mapping counts as false, and it says nothing about any rule.
      have hinner : inner = [] := by simpa [Value.truthy] using hfalse
      subst hinner
      exact ⟨fun _ he => absurd he List.not_mem_nil, fun _ => .absent⟩
    · exact ⟨hknown, hsettles⟩
  · rintro ⟨hknown, hsettles⟩
    exact .said inner rules hknown hsettles

theorem settings_of_settles {r : RuleName} {said : Option Value} {s : RuleSettings}
    (h : r.Settles said s) (hsaid : said.getD .none = .none) : s = r.settings := by
  cases h with
  | absent => rfl
  | nothing => rfl
  | switched b => cases hsaid
  | whole => cases hsaid
  | partly => cases hsaid

/-- The mapping that is merged from what is said about the rules has every rule once, in order. -/
theorem merges_of_ofValue {es inner : List (Value × Value)} {p : Policy}
    (h : ofValue (.dict es) = .ok p)
    (hsaid : Value.lookup (.str "rules") es = some (.dict inner)) :
    Merges inner (RuleName.all.map fun r => (r, p.rules r)) := by
  have hrules := (ofValue_eq_ok_iff.mp h).rules
  rw [hsaid] at hrules
  obtain ⟨hknown, hsettles⟩ := settlesRules_dict_iff.mp hrules
  refine ⟨?_, ?_, ?_⟩
  · rw [rulesOf_complete hknown fun r => ruleOf_eq_ok_iff.mpr (hsettles r), List.map_map]
    rfl
  · rw [List.map_map]
    exact List.map_id _
  · intro r hr
    rw [← settings_of_settles (hsettles r) hr]
    exact List.mem_map_of_mem r.mem_all

/-- The points of a report can be deducted from the score that a policy keeps. -/
theorem exists_deduct (p : Policy) (points : Nat) :
    ∃ score after, Score.ofMaximum p.maxScore = .ok score ∧ score.deduct points = .ok after := by
  have hmaximum : (0 : Int) < p.maxScore := Int.natCast_pos.mpr p.maxScore_pos
  have hpoints : ¬(points : Int) < 0 := Int.not_lt.mpr (Int.natCast_nonneg points)
  -- A score that was just made is not settled.
  exact ⟨_, _, dif_pos hmaximum, (if_neg Bool.false_ne_true).trans (if_neg hpoints)⟩

/-- A policy that comes about is read from a mapping, and every mapping that it is read from says
all that it is, with the default settings for the rules that it leaves out. It is complete, and so
an evaluation under it gives a report, whose points can be deducted from the score. -/
theorem complete_of_reachable (p : Policy) (h : Reachable p) :
    (∃ es, ofValue (.dict es) = .ok p) ∧
    (∀ es, ofValue (.dict es) = .ok p ↔ ReadFrom es p) ∧
    (∀ es inner, ofValue (.dict es) = .ok p →
      Value.lookup (.str "rules") es = some (.dict inner) →
      ∃ pairs, Merges inner pairs ∧ ∀ pair ∈ pairs, p.rules pair.1 = pair.2) ∧
    Complete p ∧
    ∀ units, ∃ report score after, Engine.standard.evaluate p units = .ok report ∧
      Score.ofMaximum p.maxScore = .ok score ∧ score.deduct report.deduction = .ok after := by
  refine ⟨h.exists_ofValue, fun es => ofValue_eq_ok_iff, ?_, complete p, ?_⟩
  · intro es inner hes hsaid
    refine ⟨_, merges_of_ofValue hes hsaid, ?_⟩
    simp only [List.forall_mem_map, implies_true]
  · intro units
    have hreport := Catalogue.standard.evaluate_of_isContained p
      Catalogue.standard_isContained units
    obtain ⟨score, after, hscore, hafter⟩ := p.exists_deduct _
    exact ⟨_, score, after, hreport, hscore, hafter⟩

/-- A mapping that says something about some rules only, and then two changes: the second one takes
back all that was said about the rules. -/
theorem complete_of_reachable_changed :
    let said : List (Value × Value) :=
      [(.str "max_score", .str " 7 "),
        (.str "rules", .dict [(.str "methods", .bool true), (.str "imports", .dict
          [(.str "penalty", .int 3), (.str "per_occurrence", .bool false)]),
          (.str "lambdas", .none)])]
    ∃ p q r, ofValue (.dict said) = .ok p ∧ p.withRules [("methods", .none)] = .ok q ∧
      q.withOverrides [("max_score", .int 1), ("rules", .dict [])] = .ok r ∧
      p.rules .loops = RuleName.settings .loops ∧ q.rules .imports = ⟨true, 3, false⟩ ∧
      r.rules .imports = RuleName.settings .imports ∧ r.maxScore = 1 ∧ Complete r ∧
      ∃ report, Engine.standard.evaluate r [] = .ok report := by
  intro said
  obtain ⟨p, q, r, hp, hq, hr, hloops, himports, hreset, hmaximum⟩ : ∃ p q r,
      ofValue (.dict said) = .ok p ∧ p.withRules [("methods", .none)] = .ok q ∧
      q.withOverrides [("max_score", .int 1), ("rules", .dict [])] = .ok r ∧
      p.rules .loops = RuleName.settings .loops ∧ q.rules .imports = ⟨true, 3, false⟩ ∧
      r.rules .imports = RuleName.settings .imports ∧ r.maxScore = 1 :=
    ⟨_, _, _, by rfl, by rfl, by rfl, by rfl, by rfl, by rfl, by rfl⟩
  have hreachable : Reachable r := .overridden (.toggled (.read hp) hq) hr
  obtain ⟨-, -, -, hcomplete, hevaluate⟩ := complete_of_reachable r hreachable
  obtain ⟨report, -, -, hreport, -⟩ := hevaluate []
  exact ⟨p, q, r, hp, hq, hr, hloops, himports, hreset, hmaximum, hcomplete, report, hreport⟩

end Grader.Policy
