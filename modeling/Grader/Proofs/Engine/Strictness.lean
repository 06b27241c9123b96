import Grader.Proofs.Engine.Catalogue

/-! Stricter policies. Under a policy that is at least as strict, and for more submissions, every
rule is violated at least as often, so that a report costs at least as many points and shows
cheating at least where it did. -/

namespace Grader

/-- The policy `q` is at least as strict as `p`, for scores with the same maximum. -/
structure Policy.Stricter (p q : Policy) : Prop where
  maxScore : q.maxScore = p.maxScore
  enabled : ∀ r, (p.rules r).enabled = true → (q.rules r).enabled = true
  penalty : ∀ r, (p.rules r).penalty ≤ (q.rules r).penalty
  perOccurrence : ∀ r, (p.rules r).perOccurrence = true → (q.rules r).perOccurrence = true
  syntaxErrorPenalty : p.syntaxErrorPenalty ≤ q.syntaxErrorPenalty
  /-- What is allowed under `q` is allowed under `p`. -/
  allowed : q.lists .allowedImports ⊆ p.lists .allowedImports
  /-- The other lists are about what is not allowed, and `q` has all that `p` has. -/
  forbidden : ∀ l, l ≠ .allowedImports → p.lists l ⊆ q.lists l
  realistic : p.realistic = true → q.realistic = true
  zeroOnCheat : p.zeroOnCheat = true → q.zeroOnCheat = true

theorem RuleSettings.deduction_mono {s t : RuleSettings} (hpenalty : s.penalty ≤ t.penalty)
    (hper : s.perOccurrence = true → t.perOccurrence = true) {m n : Nat} (h : m ≤ n) :
    s.deduction m ≤ t.deduction n := by
  unfold deduction
  rcases Nat.eq_zero_or_pos m with rfl | hm
  · exact Nat.zero_le _
  · have hn : n ≠ 0 := by omega
    rw [if_neg hm.ne', if_neg hn]
    cases hs : s.perOccurrence with
    | true =>
      rw [hper hs]
      exact Nat.mul_le_mul hpenalty h
    | false =>
      -- Charging once is the cheaper way, whichever way the stricter settings charge.
      calc s.penalty ≤ t.penalty := hpenalty
        _ ≤ if t.perOccurrence = true then t.penalty * n else t.penalty := by
          split
          · exact Nat.le_mul_of_pos_right _ (by omega)
          · exact le_rfl

theorem Text.Dotted.isWithinAny_mono {name : String} {roots more : List String}
    (h : roots ⊆ more) (hname : isWithinAny name roots = true) : isWithinAny name more = true := by
  unfold isWithinAny at *
  rw [List.any_eq_true] at *
  obtain ⟨root, hroot, hwithin⟩ := hname
  exact ⟨root, h hroot, hwithin⟩

namespace Rule

theorem length_filterMap_mono {α β : Type} {f g : α → Option β} (l : List α)
    (h : ∀ x, (f x).isSome = true → (g x).isSome = true) :
    (l.filterMap f).length ≤ (l.filterMap g).length := by
  rw [List.length_filterMap_eq_countP, List.length_filterMap_eq_countP]
  exact List.countP_mono_left fun x _ hx => h x hx

/-- An import of which some module is bad stays one if more modules are. -/
theorem isSome_import_mono {bad worse : String → Bool} (h : ∀ m, bad m = true → worse m = true)
    {relative : Bool} {modules : List String} {x y : Finding}
    (hx : (if relative || (modules.filter bad).isEmpty then none else some x).isSome = true) :
    (if relative || (modules.filter worse).isEmpty then none else some y).isSome = true := by
  have hbad : ¬(relative || (modules.filter bad).isEmpty) = true := by
    intro hnone
    rw [if_pos hnone] at hx
    cases hx
  rw [Bool.or_eq_true, not_or] at hbad
  have hworse : ¬(relative || (modules.filter worse).isEmpty) = true := by
    rw [Bool.or_eq_true, not_or]
    refine ⟨hbad.1, fun hnone => hbad.2 ?_⟩
    rw [List.isEmpty_iff, List.filter_eq_nil_iff] at *
    exact fun m hm hb => hnone m hm (h m hb)
  -- The finding may name other modules than before; it is there, which is all that counts.
  rw [if_neg hworse]
  rfl

/-- A name that is listed stays listed in a longer list. -/
theorem isSome_listed_mono {names more : List String} (h : names ⊆ more) {name : String}
    {x y : Finding} (hx : (if names.contains name then some x else none).isSome = true) :
    (if more.contains name then some y else none).isSome = true := by
  by_cases hname : names.contains name = true
  · have hmore : more.contains name = true := by
      rw [List.contains_iff_mem] at *
      exact h hname
    rw [if_pos hmore]
    rfl
  · rw [if_neg hname] at hx
    cases hx

end Rule

namespace Policy.Stricter

variable {p q : Policy}

theorem refl (p : Policy) : p.Stricter p :=
  ⟨rfl, fun _ => id, fun _ => le_rfl, fun _ => id, le_rfl, List.Subset.refl _,
    fun _ _ => List.Subset.refl _, id, id⟩

theorem runs (h : p.Stricter q) {n : RuleName} (hn : p.runs n = true) : q.runs n = true := by
  unfold Policy.runs at *
  rw [Bool.and_eq_true, Bool.or_eq_true] at *
  exact ⟨h.enabled n hn.1, hn.2.imp_left h.realistic⟩

/-- The one list that works the other way: what nothing allows under `p`, nothing does under `q`. -/
theorem length_importFindings (h : p.Stricter q) (u : SourceUnit) :
    (Rule.importFindings u p).length ≤ (Rule.importFindings u q).length := by
  apply Rule.length_filterMap_mono
  intro n hn
  refine Rule.isSome_import_mono ?_ hn
  intro m hm
  rw [Bool.not_eq_true'] at *
  by_contra hwithin
  rw [Bool.not_eq_false] at hwithin
  rw [Text.Dotted.isWithinAny_mono h.allowed hwithin] at hm
  cases hm

theorem length_loopFindings (h : p.Stricter q) (u : SourceUnit) :
    (Rule.loopFindings u p).length ≤ (Rule.loopFindings u q).length := by
  unfold Rule.loopFindings
  rw [List.length_append, List.length_append]
  apply Nat.add_le_add_left
  apply Rule.length_filterMap_mono
  intro n hn
  exact Rule.isSome_listed_mono (h.forbidden .iterationCalls (by decide)) hn

theorem length_collectionFindings (h : p.Stricter q) (u : SourceUnit) :
    (Rule.collectionFindings u p).length ≤ (Rule.collectionFindings u q).length := by
  apply Rule.length_filterMap_mono
  intro n hn
  cases hsite : Rule.siteText n.role with
  | none =>
    rw [hsite] at hn
    cases hn
  | some site =>
    rw [hsite] at hn
    exact Rule.isSome_listed_mono (h.forbidden .abstractCollections (by decide)) hn

theorem length_consoleFindings (h : p.Stricter q) (u : SourceUnit) :
    (Rule.consoleFindings u p).length ≤ (Rule.consoleFindings u q).length := by
  apply Rule.length_filterMap_mono
  intro n hn
  exact Rule.isSome_listed_mono (h.forbidden .consoleCalls (by decide)) hn

theorem length_cheatImportFindings (h : p.Stricter q) (u : SourceUnit) :
    (Rule.cheatImportFindings u p).length ≤ (Rule.cheatImportFindings u q).length := by
  apply Rule.length_filterMap_mono
  intro n hn
  refine Rule.isSome_import_mono ?_ hn
  intro m hm
  exact Text.Dotted.isWithinAny_mono (h.forbidden .forbiddenImports (by decide)) hm

theorem length_cheatCallFindings (h : p.Stricter q) (u : SourceUnit) :
    (Rule.cheatCallFindings u p).length ≤ (Rule.cheatCallFindings u q).length := by
  apply Rule.length_filterMap_mono
  intro n hn
  exact Rule.isSome_listed_mono (h.forbidden .forbiddenCalls (by decide)) hn

/-- No rule finds less under a stricter policy. -/
theorem length_findings (h : p.Stricter q) (n : RuleName) (u : SourceUnit) :
    (Rule.findings n u p).length ≤ (Rule.findings n u q).length := by
  cases n with
  | imports => exact h.length_importFindings u
  | loops => exact h.length_loopFindings u
  | collectionInterfaces => exact h.length_collectionFindings u
  | consoleOutput => exact h.length_consoleFindings u
  | cheatImports => exact h.length_cheatImportFindings u
  | cheatCalls => exact h.length_cheatCallFindings u
  -- The other rules consult no list.
  | methods => exact le_rfl
  | lambdas => exact le_rfl
  | innerClasses => exact le_rfl
  | globalVariables => exact le_rfl

end Policy.Stricter

namespace Catalogue

variable {p q : Policy}

theorem found_standard_rule (p : Policy) (n : RuleName) (u : SourceUnit) :
    (standard.rule n).found p u = if p.runs n = true then Rule.yielded n p u else [] := by
  rw [found_rule]
  simp only [standard, and_true]

theorem length_found_mono (h : p.Stricter q) (n : RuleName) (u : SourceUnit) :
    ((standard.rule n).found p u).length ≤ ((standard.rule n).found q u).length := by
  rw [found_standard_rule, found_standard_rule]
  by_cases hp : p.runs n = true
  · rw [if_pos hp, if_pos (h.runs hp), Rule.yielded, Rule.yielded, List.length_map, List.length_map]
    exact h.length_findings n u
  · rw [if_neg hp]
    exact Nat.zero_le _

theorem countOf_found_rule (c : Catalogue) (p : Policy) (n : RuleName) (u : SourceUnit)
    (rule : String) : Engine.countOf rule ((c.rule n).found p u) =
      if n.text == rule then ((c.rule n).found p u).length else 0 := by
  have hname : ∀ v ∈ (c.rule n).found p u, (v.rule == rule) = (n.text == rule) := by
    intro v hv
    rw [(c.mem_found_rule p n u hv).1]
  unfold Engine.countOf
  rw [List.countP_congr fun v hv => by rw [hname v hv]]
  cases n.text == rule <;> simp

/-- No rule is violated less often by a submission, nor is a submission less unparsable. -/
theorem countOf_found_mono (h : p.Stricter q) (u : SourceUnit) (rule : String) :
    Engine.countOf rule (standard.engine.found p u) ≤
      Engine.countOf rule (standard.engine.found q u) := by
  rw [found_engine, found_engine]
  split
  · unfold Engine.countOf
    rw [List.countP_flatMap, List.countP_flatMap]
    apply List.sum_le_sum
    intro n _
    change Engine.countOf rule _ ≤ Engine.countOf rule _
    rw [countOf_found_rule, countOf_found_rule]
    split
    · exact length_found_mono h n u
    · exact le_rfl
  · exact le_rfl

theorem countOf_violations_mono (h : p.Stricter q) (units : List SourceUnit) (rule : String) :
    Engine.countOf rule (standard.engine.violations p units) ≤
      Engine.countOf rule (standard.engine.violations q units) := by
  rw [Engine.countOf_violations, Engine.countOf_violations]
  exact List.sum_le_sum fun u _ => countOf_found_mono h u rule

theorem countOf_violations_append (p : Policy) (us vs : List SourceUnit) (rule : String) :
    Engine.countOf rule (standard.engine.violations p us) ≤
      Engine.countOf rule (standard.engine.violations p (us ++ vs)) := by
  rw [Engine.countOf_violations_append]
  exact Nat.le_add_right _ _

/-- Cheating shows in a report exactly if a rule about cheating is violated. -/
theorem integrityViolated_report (c : Catalogue) (p : Policy) (units : List SourceUnit) :
    (c.engine.report p units).integrityViolated = true ↔
      ∃ n, Rule.isAboutCheating n = true ∧
        0 < Engine.countOf n.text (c.engine.violations p units) := by
  unfold Report.integrityViolated Engine.countOf
  rw [List.any_eq_true]
  constructor
  · rintro ⟨v, hv, hcheat⟩
    obtain ⟨u, hu, hfound⟩ := Engine.mem_violations.mp hv
    rw [found_engine] at hfound
    split at hfound
    · -- The rule that gave the violation has its severity.
      obtain ⟨n, -, hn⟩ := List.mem_flatMap.mp hfound
      obtain ⟨hrule, hseverity⟩ := c.mem_found_rule p n u hn
      refine ⟨n, ?_, List.countP_pos_iff.mpr ⟨v, hv, beq_iff_eq.mpr hrule⟩⟩
      rw [Violation.isCheat, hseverity, Rule.severityOf] at hcheat
      by_contra hn
      rw [if_neg hn] at hcheat
      cases hcheat
    · rw [List.mem_singleton.mp hfound] at hcheat
      cases hcheat
  · rintro ⟨n, hn, hpos⟩
    obtain ⟨v, hv, hrule⟩ := List.countP_pos_iff.mp hpos
    have hseverity := c.severity_of_mem_violations p n hv (beq_iff_eq.mp hrule)
    refine ⟨v, hv, ?_⟩
    rw [Violation.isCheat, hseverity, Rule.severityOf, if_pos hn]
    rfl

section

variable (c : Catalogue) (h : p.Stricter q) {us vs : List SourceUnit}
  (hcount : ∀ rule, Engine.countOf rule (c.engine.violations p us) ≤
    Engine.countOf rule (c.engine.violations q vs))

include h hcount

theorem price_mono (n : RuleName) :
    price p (c.engine.violations p us) n ≤ price q (c.engine.violations q vs) n := by
  unfold price
  split
  · exact le_rfl
  · exact RuleSettings.deduction_mono (h.penalty n) (h.perOccurrence n) (hcount n.text)

/-- Where every rule is violated at least as often, the points are at least as many. -/
theorem deduction_report_mono :
    (c.engine.report p us).deduction ≤ (c.engine.report q vs).deduction := by
  calc c.engine.points p (c.engine.violations p us)
      = p.syntaxErrorPenalty * Engine.countOf syntaxRule (c.engine.violations p us) +
          (c.names.map (price p (c.engine.violations p us))).sum :=
        c.points_engine p us
    _ ≤ q.syntaxErrorPenalty * Engine.countOf syntaxRule (c.engine.violations q vs) +
          (c.names.map (price q (c.engine.violations q vs))).sum :=
        Nat.add_le_add (Nat.mul_le_mul h.syntaxErrorPenalty (hcount syntaxRule))
          (List.sum_le_sum fun n _ => c.price_mono h hcount n)
    _ = c.engine.points q (c.engine.violations q vs) :=
        (c.points_engine q vs).symm

omit h in
theorem integrityViolated_report_mono
    (hp : (c.engine.report p us).integrityViolated = true) :
    (c.engine.report q vs).integrityViolated = true := by
  rw [integrityViolated_report] at *
  obtain ⟨n, hn, hpos⟩ := hp
  exact ⟨n, hn, hpos.trans_le (hcount n.text)⟩

end

end Catalogue

end Grader
