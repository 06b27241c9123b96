import Grader.Proofs.Policy.Accepted

/-! The entries of a policy. A mapping that holds what they hold is read as the policy, with the
rules that it says and the names as they are read back. -/

namespace Grader.Policy

variable (p : Policy)

/-- The entries of a policy with its lists of names as sequences of some kind. -/
def entriesAs (sequence : List Value → Value) : List (Value × Value) :=
  [(Value.str "rules", Value.dict p.rulesValue)] ++
    NameList.all.map (fun l => (Value.str l.text, sequence ((p.lists l).map Value.str))) ++
    [(Value.str "realistic", Value.bool p.realistic),
      (Value.str "zero_on_cheat", Value.bool p.zeroOnCheat),
      (Value.str "max_score", Value.int p.maxScore),
      (Value.str "syntax_error_penalty", Value.int p.syntaxErrorPenalty),
      (Value.str "result_scale", Value.float p.resultScale)]

theorem entriesAs_list : p.entriesAs .list = p.entries := rfl

section Entries

variable {sequence : List Value → Value}

theorem map_fst_entriesAs : (p.entriesAs sequence).map (·.1) = keys.map .str := by
  unfold entriesAs keys NameList.all
  rfl

theorem lookup_entriesAs_list (l : NameList) : Value.lookup (.str l.text) (p.entriesAs sequence) =
    some (sequence ((p.lists l).map .str)) := by
  unfold entriesAs NameList.all
  cases l <;>
    simp only [NameList.text, List.map_cons, List.map_nil, List.cons_append, List.nil_append,
      Value.lookup_cons, String.reduceEq, ↓reduceIte]

theorem lookup_entriesAs_rules :
    Value.lookup (.str "rules") (p.entriesAs sequence) = some (.dict p.rulesValue) := by
  unfold entriesAs
  simp only [List.cons_append, Value.lookup_cons, ↓reduceIte]

theorem lookup_entriesAs_options (sequence : List Value → Value) :
    Value.lookup (.str "realistic") (p.entriesAs sequence) = some (.bool p.realistic) ∧
    Value.lookup (.str "zero_on_cheat") (p.entriesAs sequence) = some (.bool p.zeroOnCheat) ∧
    Value.lookup (.str "max_score") (p.entriesAs sequence) = some (.int p.maxScore) ∧
    Value.lookup (.str "syntax_error_penalty") (p.entriesAs sequence) =
      some (.int p.syntaxErrorPenalty) ∧
    Value.lookup (.str "result_scale") (p.entriesAs sequence) = some (.float p.resultScale) := by
  unfold entriesAs NameList.all
  simp only [NameList.text, List.map_cons, List.map_nil, List.cons_append, List.nil_append,
    Value.lookup_cons, String.reduceEq, ↓reduceIte, and_self]

theorem settles_toValue (r : RuleName) (s : RuleSettings) : r.Settles (some s.toValue) s :=
  .partly _ _ (RuleSettings.ofEntries_eq_ok_iff.mp (RuleSettings.ofEntries_toValue _ _))

theorem map_fst_rulesValue : p.rulesValue.map (·.1) = RuleName.all.map fun r => .str r.text := by
  unfold rulesValue
  rw [List.map_map]
  rfl

theorem settlesRules_entriesAs :
    SettlesRules (Value.lookup (.str "rules") (p.entriesAs sequence)) p.rules := by
  rw [lookup_entriesAs_rules]
  refine .said _ _ (fun e he => ?_) fun r => ?_
  · obtain ⟨r, -, hr⟩ := Value.exists_of_map_fst p.map_fst_rulesValue e he
    exact ⟨r, hr⟩
  · rw [lookup_rulesValue]
    exact settles_toValue r (p.rules r)

/-- A mapping that differs from the entries of a policy in what it says about the rules is read as
the policy with these rules. -/
theorem readFrom_reset {es : List (Value × Value)} {rules : RuleName → RuleSettings}
    (hsequence : ∀ xs, Value.readNames (sequence xs) = .ok (Value.strippedNames xs))
    (hkeys : es.map (·.1) = (p.entriesAs sequence).map (·.1))
    (hrules : SettlesRules (Value.lookup (.str "rules") es) rules)
    (hes : ∀ k, k ≠ "rules" →
      Value.lookup (.str k) es = Value.lookup (.str k) (p.entriesAs sequence)) :
    ReadFrom es (p.reset rules) := by
  have hlist (l : NameList) :
      Value.Gives es l.text Value.readNames l.default (p.reread l) := by
    have hl : l.text ≠ "rules" := by cases l <;> decide
    exact Value.gives_of_lookup ((hes _ hl).trans (p.lookup_entriesAs_list l)) (hsequence _)
  have hoption {k : String} (hk : k ≠ "rules") {v : Value}
      (hv : Value.lookup (.str k) (p.entriesAs sequence) = some v) :
      Value.lookup (.str k) es = some v := (hes k hk).trans hv
  obtain ⟨hrealistic, hzero, hmaximum, hpenalty, hscale⟩ := p.lookup_entriesAs_options sequence
  refine ⟨Value.exists_of_map_fst (hkeys.trans p.map_fst_entriesAs), hrules, hlist, ?_, ?_, ?_, ?_,
    ?_⟩
  · exact Value.gives_of_lookup (hoption (by decide) hrealistic) rfl
  · exact Value.gives_of_lookup (hoption (by decide) hzero) rfl
  · exact Value.gives_of_lookup (hoption (by decide) hmaximum) rfl
  · exact Value.gives_of_lookup (hoption (by decide) hpenalty) rfl
  · exact Value.gives_of_lookup (hoption (by decide) hscale) rfl

end Entries

end Grader.Policy
