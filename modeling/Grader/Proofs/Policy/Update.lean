import Grader.Proofs.Policy.Entries

/-! Changing what a policy says about one rule. A toggle mentions some settings of the rule. What
it leaves open is taken from the default settings of the rule, not from those that it has in the
policy, so that the two agree only where the policy never changed them. -/

namespace Grader

/-- What is said about the settings of a rule. -/
structure Toggle where
  enabled : Option Bool := none
  penalty : Option Nat := none
  perOccurrence : Option Bool := none
  deriving DecidableEq

namespace Toggle

/-- Settings after a toggle: what it mentions, and the rest of `base`. -/
def onto (t : Toggle) (base : RuleSettings) : RuleSettings :=
  ⟨t.enabled.getD base.enabled, t.penalty.getD base.penalty,
    t.perOccurrence.getD base.perOccurrence⟩

/-- What a value says under a key, if anything. -/
def mention {α : Type} (es : List (Value × Value)) (key : String)
    (read : Value → Checked α) : Checked (Option α) :=
  Value.field es key (fun v => (read v).map some) none

/-- The toggle that a value is: a truth value mentions whether the rule is enabled, and a mapping
what it has entries for. -/
def ofValue : Value → Checked Toggle
  | .bool b => .ok { enabled := some b }
  | .dict es =>
    (Value.knownKeys RuleSettings.keys es).map (fun _ => Toggle.mk)
      |> (Checked.apply · (mention es "enabled" Value.readTruth))
      |> (Checked.apply · (mention es "penalty" (Value.readNatural 0)))
      |> (Checked.apply · (mention es "per_occurrence" Value.readTruth))
  | _ => Checked.flawed "dict_type"

theorem field_eq_mention {α : Type} (es : List (Value × Value)) (key : String)
    (read : Value → Checked α) (absent : α) :
    Value.field es key read absent = (mention es key read).map (·.getD absent) := by
  unfold mention Value.field
  cases Value.lookup (.str key) es with
  | none => rfl
  | some v => cases hread : read v <;> simp [hread, Checked.under, Except.map, Except.mapError]

/-- Reading settings over a base is reading the toggle first. -/
theorem ofEntries_eq_onto (base : RuleSettings) (es : List (Value × Value)) :
    RuleSettings.ofEntries base es = (ofValue (.dict es)).map (·.onto base) := by
  unfold RuleSettings.ofEntries ofValue
  simp only [field_eq_mention]
  cases Value.knownKeys RuleSettings.keys es <;>
    cases mention es "enabled" Value.readTruth <;>
    cases mention es "penalty" (Value.readNatural 0) <;>
    cases mention es "per_occurrence" Value.readTruth <;> rfl

/-- Two bases give the same settings exactly if they agree on what the toggle leaves open. -/
theorem onto_eq_onto_iff (t : Toggle) (s s' : RuleSettings) : t.onto s = t.onto s' ↔
    (t.enabled = none → s.enabled = s'.enabled) ∧
    (t.penalty = none → s.penalty = s'.penalty) ∧
    (t.perOccurrence = none → s.perOccurrence = s'.perOccurrence) := by
  have hgetD {α : Type} (o : Option α) (x y : α) :
      o.getD x = o.getD y ↔ (o = none → x = y) := by
    cases o <;> simp
  unfold onto
  rw [RuleSettings.mk.injEq, hgetD, hgetD, hgetD]

end Toggle

namespace Policy

variable (p : Policy) (r : RuleName)

/-- A toggle is merged with the default settings of its rule. -/
theorem settles_of_toggle {v : Value} {t : Toggle} (h : Toggle.ofValue v = .ok t) :
    r.Settles (some v) (t.onto r.settings) := by
  cases v with
  | bool b =>
    cases h
    exact .switched b
  | dict es =>
    have hread : RuleSettings.ofEntries r.settings es = .ok (t.onto r.settings) := by
      rw [Toggle.ofEntries_eq_onto, h]
      rfl
    exact .partly es _ (RuleSettings.ofEntries_eq_ok_iff.mp hread)
  | _ => cases h

/-- What the policy says about the rules after a toggle of one of them. -/
theorem settlesRules_of_toggle {v : Value} {t : Toggle} (h : Toggle.ofValue v = .ok t) :
    SettlesRules (some (.dict (Value.insert p.rulesValue (.str r.text) v)))
      (Function.update p.rules r (t.onto r.settings)) := by
  have hpresent : (Value.lookup (.str r.text) p.rulesValue).isSome = true := by
    rw [lookup_rulesValue]
    rfl
  -- The entry of the rule is set in its place, so that the mapping still has one for every rule.
  have hkeys := (Value.keys_insert hpresent v).trans p.map_fst_rulesValue
  refine .said _ _ (fun e he => ?_) fun n => ?_
  · obtain ⟨n, -, hn⟩ := Value.exists_of_map_fst hkeys e he
    exact ⟨n, hn⟩
  · rw [Value.lookup_insert, lookup_rulesValue]
    by_cases hn : n = r
    · subst hn
      rw [if_pos rfl, Function.update_self]
      exact settles_of_toggle n h
    · have htext : n.text ≠ r.text := fun he => hn (RuleName.text_inj.mp he)
      rw [if_neg htext, Function.update_of_ne hn]
      exact settles_toValue n (p.rules n)

/-- A change of one rule gives the policy with the new settings of the rule, read back. -/
theorem withRules_of_toggle {v : Value} {t : Toggle} (h : Toggle.ofValue v = .ok t) :
    p.withRules [(r.text, v)] =
      .ok (p.reset (Function.update p.rules r (t.onto r.settings))) := by
  set said := Value.dict (Value.insert p.rulesValue (.str r.text) v)
  have hpresent : (Value.lookup (.str "rules") (p.entriesAs .list)).isSome = true := by
    rw [lookup_entriesAs_rules]
    rfl
  have hsaid : Value.lookup (.str "rules") (Value.insert (p.entriesAs .list) (.str "rules") said) =
      some said := by
    rw [Value.lookup_insert, if_pos rfl]
  have hread : ofValue (.dict (Value.insert (p.entriesAs .list) (.str "rules") said)) =
      .ok (p.reset (Function.update p.rules r (t.onto r.settings))) := by
    refine ofValue_eq_ok_iff.mpr (p.readFrom_reset (fun _ => rfl)
      (Value.keys_insert hpresent said) ?_ fun k hk => ?_)
    · rw [hsaid]
      exact p.settlesRules_of_toggle r h
    · rw [Value.lookup_insert, if_neg hk]
  rw [entriesAs_list] at hread
  unfold withRules withOverrides
  exact congrArg _ hread

/-- After a toggle a rule has the settings that the toggle mentions, and its default settings where
the toggle leaves them open. So what is left open stays as it was exactly if the policy had the
default there. Other rules keep their settings, and the options of the policy keep their values. -/
theorem settings_withRules (p : Policy) (r : RuleName) (v : Value) (t : Toggle)
    (h : Toggle.ofValue v = .ok t) :
    ∃ q, p.withRules [(r.text, v)] = .ok q ∧
      q.settings r.text = .ok (t.onto r.settings) ∧
      (q.settings r.text = .ok (t.onto (p.rules r)) ↔
        (t.enabled = none → r.settings.enabled = (p.rules r).enabled) ∧
        (t.penalty = none → r.settings.penalty = (p.rules r).penalty) ∧
        (t.perOccurrence = none → r.settings.perOccurrence = (p.rules r).perOccurrence)) ∧
      (∀ n, n ≠ r → q.settings n.text = p.settings n.text) ∧
      q.realistic = p.realistic ∧ q.zeroOnCheat = p.zeroOnCheat ∧ q.maxScore = p.maxScore ∧
      q.syntaxErrorPenalty = p.syntaxErrorPenalty ∧ q.resultScale = p.resultScale := by
  set q := p.reset (Function.update p.rules r (t.onto r.settings)) with hq
  have hr : q.settings r.text = .ok (t.onto r.settings) := by
    rw [settings_text, hq]
    exact congrArg _ (Function.update_self ..)
  refine ⟨q, p.withRules_of_toggle r h, hr, ?_, ?_, rfl, rfl, rfl, rfl, rfl⟩
  · rw [hr, Except.ok.injEq]
    exact t.onto_eq_onto_iff _ _
  · intro n hn
    rw [settings_text, settings_text, hq]
    exact congrArg _ (Function.update_of_ne hn ..)

/-- Switching the loops on under a policy that weighs them lightly gives them their usual weight. -/
theorem settings_withRules_light :
    let p : Policy := { rules := fun r => { r.settings with penalty := 3 } }
    ∃ q, p.withRules [("loops", .bool true)] = .ok q ∧
      q.settings "loops" = .ok ⟨true, 10, true⟩ ∧
      q.settings "loops" ≠ .ok ((⟨some true, none, none⟩ : Toggle).onto (p.rules .loops)) ∧
      q.settings "methods" = .ok ⟨false, 3, true⟩ := by
  intro p
  obtain ⟨q, hq, hloops, -, hothers, -⟩ :=
    settings_withRules p .loops (.bool true) ⟨some true, none, none⟩ rfl
  refine ⟨q, hq, hloops, ?_, hothers .methods (by decide)⟩
  intro h
  have heq := hloops.symm.trans h
  revert heq
  decide

/-- Under the policy that enables everything, a change of the penalty for loops disables them. -/
theorem withRules_disables_loops :
    Policy.strict.settings "loops" = .ok ⟨true, 10, true⟩ ∧
    ∃ q, Policy.strict.withRules [("loops", .dict [(.str "penalty", .int 3)])] = .ok q ∧
      q.settings "loops" = .ok ⟨false, 3, true⟩ := by
  have htoggle : Toggle.ofValue (.dict [(.str "penalty", .int 3)]) =
      .ok { penalty := some 3 } := by
    unfold Toggle.ofValue Toggle.mention Value.field
    simp only [Value.lookup_cons, String.reduceEq, ↓reduceIte]
    rfl
  exact ⟨rfl, _, Policy.strict.withRules_of_toggle .loops htoggle, rfl⟩

end Policy

end Grader
