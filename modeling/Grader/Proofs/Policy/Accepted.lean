import Grader.Proofs.Policy.Reading

/-! The mappings that policies are read from. A policy is read from a mapping exactly if every entry
has a key that is known, and every setting of the policy is what its entry says, or the default
where there is none (`ofValue_eq_ok_iff`). -/

namespace Grader

namespace Checked

variable {α β : Type}

theorem apply_eq_ok_iff {f : Checked (α → β)} {a : Checked α} {b : β} :
    apply f a = .ok b ↔ ∃ g x, f = .ok g ∧ a = .ok x ∧ b = g x := by
  cases f <;> cases a <;> simp [apply, eq_comm]

theorem under_eq_ok_iff {step : String} {c : Checked α} {a : α} :
    under step c = .ok a ↔ c = .ok a :=
  Traversal.mapError_eq_ok_iff

theorem all_eq_ok_iff {cs : List (Checked α)} {as : List α} :
    all cs = .ok as ↔ cs = as.map .ok := by
  constructor
  · intro h
    induction cs generalizing as with
    | nil =>
      cases h
      rfl
    | cons c cs ih =>
      rw [all, apply_eq_ok_iff] at h
      obtain ⟨g, rest, hg, hrest, rfl⟩ := h
      obtain ⟨a, rfl, rfl⟩ := Traversal.map_eq_ok_iff.mp hg
      rw [List.map_cons, ← ih hrest]
  · rintro rfl
    simpa using all_map_ok (fun a => a) as

/-- What is read for every one of some items, given with the item. -/
theorem all_pairs_eq_ok_iff {items : List α} (hitems : ∀ a, a ∈ items) {read : α → Checked β}
    {pairs : List (α × β)} :
    all (items.map fun a => (read a).map fun b => (a, b)) = .ok pairs ↔
      ∃ f : α → β, (∀ a, read a = .ok (f a)) ∧ pairs = items.map fun a => (a, f a) := by
  rw [all_eq_ok_iff]
  constructor
  · intro h
    have hread (a : α) : ∃ b, read a = .ok b := by
      have hmem : ((read a).map fun b => (a, b)) ∈ pairs.map Except.ok := by
        rw [← h]
        exact List.mem_map_of_mem (hitems a)
      obtain ⟨pair, -, hpair⟩ := List.mem_map.mp hmem
      obtain ⟨b, hb, -⟩ := Traversal.map_eq_ok_iff.mp hpair.symm
      exact ⟨b, hb⟩
    choose f hf using hread
    refine ⟨f, hf, List.map_injective_iff.mpr (fun _ _ => Except.ok.inj) (h.symm.trans ?_)⟩
    rw [List.map_map]
    refine List.map_congr_left fun a _ => ?_
    rw [hf]
    rfl
  · rintro ⟨f, hf, rfl⟩
    rw [List.map_map]
    refine List.map_congr_left fun a _ => ?_
    rw [hf]
    rfl

end Checked

namespace Value

/-- What a mapping gives under a key: what is read from the entry, or the default where there is no
entry. -/
def Gives {α : Type} (es : List (Value × Value)) (key : String) (read : Value → Checked α)
    (absent a : α) : Prop :=
  match lookup (str key) es with
  | some v => read v = .ok a
  | Option.none => a = absent

theorem gives_of_lookup {α : Type} {es : List (Value × Value)} {key : String} {v : Value}
    (h : lookup (str key) es = some v) {read : Value → Checked α} {absent a : α}
    (hread : read v = .ok a) : Gives es key read absent a := by
  unfold Gives
  rw [h]
  exact hread

theorem field_eq_ok_iff {α : Type} {es : List (Value × Value)} {key : String}
    {read : Value → Checked α} {absent a : α} :
    field es key read absent = .ok a ↔ Gives es key read absent a := by
  unfold field Gives
  cases lookup (str key) es with
  | none => simp [eq_comm]
  | some v => exact Checked.under_eq_ok_iff

theorem knownKeys_eq_ok_iff {known : List String} {es : List (Value × Value)} :
    knownKeys known es = .ok () ↔ ∀ e ∈ es, ∃ k ∈ known, e.1 = str k := by
  have hstray : strayKeys known es = [] ↔ ∀ e ∈ es, ∃ k ∈ known, e.1 = str k := by
    unfold strayKeys
    rw [List.filterMap_eq_nil_iff]
    refine forall₂_congr fun e _ => ?_
    cases e.1 <;> simp
  rw [← hstray]
  unfold knownKeys
  cases strayKeys known es <;> simp

theorem readNatural_eq_ok_iff {least n : Nat} {v : Value} :
    readNatural least v = .ok n ↔ readInteger v = .ok (n : Int) ∧ least ≤ n := by
  unfold readNatural
  cases readInteger v with
  | error fs => simp [Except.bind]
  | ok i =>
    change atLeast least i = .ok n ↔ _
    unfold atLeast
    rw [Int.ofNat_eq_natCast]
    split
    · rename_i hle
      simp only [Except.ok.injEq]
      constructor
      · rintro rfl
        omega
      · rintro ⟨rfl, -⟩
        rfl
    · rename_i hle
      simp only [Checked.flawed, reduceCtorEq, Except.ok.injEq, false_iff, not_and]
      rintro rfl hn
      omega

/-- Two readings that agree up to an injective view of what is read give the same under a key. -/
theorem gives_iff {α β : Type} {f : α → β} (hf : Function.Injective f) {read : Value → Checked α}
    {other : Value → Checked β} (h : ∀ v a, read v = .ok a ↔ other v = .ok (f a))
    {es : List (Value × Value)} {key : String} {absent a : α} :
    Gives es key read absent a ↔ Gives es key other (f absent) (f a) := by
  unfold Gives
  cases lookup (str key) es with
  | none => exact hf.eq_iff.symm
  | some v => exact h v a

theorem gives_readNatural_iff {es : List (Value × Value)} {key : String} {absent n : Nat} :
    Gives es key (readNatural 0) absent n ↔
      Gives es key readInteger (absent : Int) (n : Int) :=
  gives_iff Nat.cast_injective fun _ _ =>
    readNatural_eq_ok_iff.trans (and_iff_left (Nat.zero_le _))

end Value

/-- The settings of a rule are read from a mapping, over others. -/
structure RuleSettings.ReadFrom (base : RuleSettings) (es : List (Value × Value))
    (s : RuleSettings) : Prop where
  known : ∀ e ∈ es, ∃ k ∈ RuleSettings.keys, e.1 = .str k
  enabled : Value.Gives es "enabled" Value.readTruth base.enabled s.enabled
  penalty : Value.Gives es "penalty" Value.readInteger (base.penalty : Int) (s.penalty : Int)
  perOccurrence :
    Value.Gives es "per_occurrence" Value.readTruth base.perOccurrence s.perOccurrence

/-- What the entry of a rule makes of its default settings. -/
inductive RuleName.Settles (r : RuleName) : Option Value → RuleSettings → Prop
  | absent : Settles r none r.settings
  | nothing : Settles r (some .none) r.settings
  | switched (b : Bool) : Settles r (some (.bool b)) { r.settings with enabled := b }
  | whole (s : RuleSettings) : Settles r (some (.settings s)) s
  | partly (es : List (Value × Value)) (s : RuleSettings) (h : r.settings.ReadFrom es s) :
    Settles r (some (.dict es)) s

namespace RuleSettings

theorem ofEntries_eq_ok_iff {base s : RuleSettings} {es : List (Value × Value)} :
    ofEntries base es = .ok s ↔ base.ReadFrom es s := by
  unfold ofEntries
  simp only [Checked.apply_eq_ok_iff, Traversal.map_eq_ok_iff, Value.field_eq_ok_iff,
    Value.gives_readNatural_iff]
  constructor
  · rintro ⟨_, perOccurrence, ⟨_, penalty, ⟨_, enabled, ⟨⟨⟩, hknown, rfl⟩, henabled, rfl⟩,
      hpenalty, rfl⟩, hper, rfl⟩
    exact ⟨Value.knownKeys_eq_ok_iff.mp hknown, henabled, hpenalty, hper⟩
  · rintro ⟨hknown, henabled, hpenalty, hper⟩
    exact ⟨_, _, ⟨_, _, ⟨_, _, ⟨(), Value.knownKeys_eq_ok_iff.mpr hknown, rfl⟩, henabled, rfl⟩,
      hpenalty, rfl⟩, hper, rfl⟩

end RuleSettings

namespace Policy

theorem ruleOf_eq_ok_iff {r : RuleName} {said : Option Value} {s : RuleSettings} :
    ruleOf r (said.getD .none) = .ok (.ok s) ↔ r.Settles said s := by
  constructor
  · intro h
    cases said with
    | none =>
      cases h
      exact .absent
    | some v =>
      change ruleOf r v = _ at h
      cases v with
      | none =>
        cases h
        exact .nothing
      | bool b =>
        cases h
        exact .switched b
      | settings s =>
        cases h
        exact .whole s
      | dict es =>
        have hread := Checked.under_eq_ok_iff.mp (Except.ok.inj h)
        exact .partly es s (RuleSettings.ofEntries_eq_ok_iff.mp hread)
      | _ => cases h
  · rintro (_ | _ | _ | _ | ⟨es, s, h⟩)
    · rfl
    · rfl
    · rfl
    · rfl
    · exact congrArg Except.ok
        (Checked.under_eq_ok_iff.mpr (RuleSettings.ofEntries_eq_ok_iff.mpr h))

/-- What is said about the rules settles them all. Anything that counts as false says nothing. -/
inductive SettlesRules : Option Value → (RuleName → RuleSettings) → Prop
  | absent : SettlesRules none RuleName.settings
  | nothing (v : Value) (h : v.truthy = false) : SettlesRules (some v) RuleName.settings
  | said (es : List (Value × Value)) (rules : RuleName → RuleSettings)
    (known : ∀ e ∈ es, ∃ r : RuleName, e.1 = .str r.text)
    (settles : ∀ r : RuleName, r.Settles (Value.lookup (.str r.text) es) (rules r)) :
    SettlesRules (some (.dict es)) rules

/-- The policy is read from a mapping. The numbers in it are the integers that are written there,
so that a mapping with a number that is too small for its field says no policy. -/
structure ReadFrom (es : List (Value × Value)) (p : Policy) : Prop where
  known : ∀ e ∈ es, ∃ k ∈ keys, e.1 = .str k
  rules : SettlesRules (Value.lookup (.str "rules") es) p.rules
  lists : ∀ l : NameList, Value.Gives es l.text Value.readNames l.default (p.lists l)
  realistic : Value.Gives es "realistic" Value.readTruth true p.realistic
  zeroOnCheat : Value.Gives es "zero_on_cheat" Value.readTruth true p.zeroOnCheat
  maxScore : Value.Gives es "max_score" Value.readInteger 100 (p.maxScore : Int)
  syntaxErrorPenalty :
    Value.Gives es "syntax_error_penalty" Value.readInteger 0 (p.syntaxErrorPenalty : Int)
  resultScale : Value.Gives es "result_scale" Value.readFloat 10.0 p.resultScale

theorem readPositive_eq_ok_iff {v : Value} {n : Positive} :
    readPositive v = .ok n ↔ Value.readInteger v = .ok (n.1 : Int) := by
  unfold readPositive
  cases hv : Value.readNatural 1 v with
  | error fs =>
    -- A positive number would have been read as a natural one.
    have hnot : ¬Value.readInteger v = .ok (n.1 : Int) := by
      intro h
      rw [Value.readNatural_eq_ok_iff.mpr ⟨h, n.2⟩] at hv
      cases hv
    simp [Except.bind, hnot]
  | ok m =>
    obtain ⟨hm, hpos⟩ := Value.readNatural_eq_ok_iff.mp hv
    have hread : 0 < m := hpos
    simp only [Except.bind]
    rw [dif_pos hread, hm, Except.ok.injEq, Except.ok.injEq, Int.natCast_inj, Subtype.ext_iff]

theorem readPositiveFloat_eq_ok_iff {v : Value} {x : PositiveFloat} :
    readPositiveFloat v = .ok x ↔ Value.readFloat v = .ok x.1 := by
  unfold readPositiveFloat
  cases Value.readFloat v with
  | error fs => simp [Except.bind]
  | ok y =>
    simp only [Except.bind, Except.ok.injEq]
    split
    · rw [Except.ok.injEq, Subtype.ext_iff]
    · rename_i hy
      simp only [Checked.flawed, reduceCtorEq, false_iff]
      rintro rfl
      exact hy x.2

theorem gives_readPositive_iff {es : List (Value × Value)} {key : String} {absent n : Positive} :
    Value.Gives es key readPositive absent n ↔
      Value.Gives es key Value.readInteger (absent.1 : Int) (n.1 : Int) :=
  Value.gives_iff (f := fun n : Positive => (n.1 : Int))
    (Nat.cast_injective.comp Subtype.val_injective) fun _ _ => readPositive_eq_ok_iff

theorem gives_readPositiveFloat_iff {es : List (Value × Value)} {key : String}
    {absent x : PositiveFloat} : Value.Gives es key readPositiveFloat absent x ↔
      Value.Gives es key Value.readFloat absent.1 x.1 :=
  Value.gives_iff Subtype.val_injective fun _ _ => readPositiveFloat_eq_ok_iff

/-- A mapping of rules is read exactly if it settles them, and then as the settings of every rule, in
the order of the catalogue. -/
theorem rulesOf_dict_eq_ok_iff {es : List (Value × Value)}
    {pairs : List (RuleName × RuleSettings)} :
    (∃ cs, rulesOf (.dict es) = .ok cs ∧ Checked.all cs = .ok pairs) ↔
      ∃ rules : RuleName → RuleSettings, (∀ e ∈ es, ∃ r : RuleName, e.1 = .str r.text) ∧
        (∀ r : RuleName, r.Settles (Value.lookup (.str r.text) es) (rules r)) ∧
        pairs = RuleName.all.map fun r => (r, rules r) := by
  constructor
  · rintro ⟨cs, hcs, hall⟩
    simp only [rulesOf] at hcs
    split at hcs
    · rename_i hunknown
      have hknown := unknown_eq_nil_iff.mp (List.isEmpty_iff.mp hunknown)
      -- What is said about a rule is read by a function of the rule, wherever it can be read.
      let read (r : RuleName) := ruleOf r ((Value.lookup (.str r.text) es).getD .none)
      let given (r : RuleName) : Checked RuleSettings := (read r).toOption.getD (.error [])
      have hgiven {r : RuleName} {c : Checked RuleSettings} (hc : read r = .ok c) :
          given r = c := by
        simp only [given, hc, Except.toOption, Option.getD_some]
      have hpair (r : RuleName) (c : Checked (RuleName × RuleSettings))
          (hc : (read r).map (fun c => c.map fun s => (r, s)) = .ok c) :
          c = (given r).map fun s => (r, s) := by
        obtain ⟨s, hs, rfl⟩ := Traversal.map_eq_ok_iff.mp hc
        rw [hgiven hs]
      obtain ⟨hread, rfl⟩ := (Traversal.mapM_eq_ok_iff fun r _ => hpair r).mp hcs
      obtain ⟨rules, hrules, rfl⟩ := (Checked.all_pairs_eq_ok_iff RuleName.mem_all).mp hall
      refine ⟨rules, hknown, fun r => ruleOf_eq_ok_iff.mp ?_, rfl⟩
      obtain ⟨c, hc, -⟩ := Traversal.map_eq_ok_iff.mp (hread r r.mem_all)
      exact hc.trans (congrArg _ ((hgiven hc).symm.trans (hrules r)))
    · cases hcs
  · rintro ⟨rules, hknown, hsettles, rfl⟩
    exact ⟨_, rulesOf_complete hknown fun r => ruleOf_eq_ok_iff.mpr (hsettles r),
      Checked.all_map_ok _ _⟩

/-- What is read where a mapping may say something about the rules: no settings if it says nothing,
and then the default ones are taken. -/
theorem settingsAmong_eq_iff {said : Option Value} {rules : RuleName → RuleSettings} :
    (∃ cs pairs, said.elim (.ok []) rulesOf = .ok cs ∧ Checked.all cs = .ok pairs ∧
      settingsAmong pairs = rules) ↔ SettlesRules said rules := by
  constructor
  · rintro ⟨cs, pairs, hcs, hall, rfl⟩
    cases said with
    | none =>
      cases hcs
      cases hall
      exact .absent
    | some v =>
      change rulesOf v = .ok cs at hcs
      by_cases hv : ∃ es, v = .dict es
      · obtain ⟨es, rfl⟩ := hv
        obtain ⟨rules, hknown, hsettles, rfl⟩ := rulesOf_dict_eq_ok_iff.mp ⟨cs, hcs, hall⟩
        rw [settingsAmong_all]
        exact .said es rules hknown hsettles
      · rw [rulesOf_of_ne_dict fun es hes => hv ⟨es, hes⟩] at hcs
        split at hcs
        · cases hcs
        · rename_i hfalse
          cases hcs
          cases hall
          exact .nothing v (Bool.eq_false_iff.mpr hfalse)
  · rintro (_ | ⟨v, hv⟩ | ⟨es, rules, hknown, hsettles⟩)
    · exact ⟨[], [], rfl, rfl, rfl⟩
    · by_cases hempty : ∃ es, v = .dict es
      · -- An empty mapping says nothing, and is read as a mapping.
        obtain ⟨es, rfl⟩ := hempty
        have hes : es = [] := by simpa [Value.truthy] using hv
        subst hes
        have hread : rulesOf (.dict []) = .ok (RuleName.all.map fun r => .ok (r, r.settings)) :=
          rulesOf_complete (fun _ he => absurd he List.not_mem_nil) fun _ => rfl
        exact ⟨_, _, hread, Checked.all_map_ok _ _, settingsAmong_all _⟩
      · refine ⟨[], [], ?_, rfl, rfl⟩
        change rulesOf v = .ok []
        rw [rulesOf_of_ne_dict fun es hes => hempty ⟨es, hes⟩, hv, if_neg Bool.false_ne_true]
    · obtain ⟨cs, hcs, hall⟩ := rulesOf_dict_eq_ok_iff.mpr ⟨rules, hknown, hsettles, rfl⟩
      exact ⟨cs, _, hcs, hall, settingsAmong_all rules⟩

theorem listsOf_eq_ok_iff {es : List (Value × Value)} {lists : List (NameList × List String)} :
    listsOf es = .ok lists ↔ ∃ names : NameList → List String,
      (∀ l : NameList, Value.Gives es l.text Value.readNames l.default (names l)) ∧
        lists = NameList.all.map fun l => (l, names l) := by
  have hall (l : NameList) : l ∈ NameList.all := by cases l <;> decide
  unfold listsOf
  rw [Checked.all_pairs_eq_ok_iff hall]
  simp only [Value.field_eq_ok_iff]

/-- The entries of a mapping are read as a policy exactly if its keys are known, and every part of
the policy is what is read for it. -/
theorem ofEntries_eq_ok_iff {es : List (Value × Value)} {p : Policy}
    {cs : List (Checked (RuleName × RuleSettings))} : ofEntries cs es = .ok p ↔
      Value.knownKeys keys es = .ok () ∧
      (∃ pairs, Checked.all cs = .ok pairs ∧ settingsAmong pairs = p.rules) ∧
      (∀ l : NameList, Value.Gives es l.text Value.readNames l.default (p.lists l)) ∧
      Value.Gives es "realistic" Value.readTruth true p.realistic ∧
      Value.Gives es "zero_on_cheat" Value.readTruth true p.zeroOnCheat ∧
      Value.Gives es "max_score" Value.readInteger 100 (p.maxScore : Int) ∧
      Value.Gives es "syntax_error_penalty" Value.readInteger 0 (p.syntaxErrorPenalty : Int) ∧
      Value.Gives es "result_scale" Value.readFloat 10.0 p.resultScale := by
  unfold ofEntries
  simp only [Checked.apply_eq_ok_iff, Traversal.map_eq_ok_iff, Value.field_eq_ok_iff,
    Checked.under_eq_ok_iff, listsOf_eq_ok_iff, Value.gives_readNatural_iff,
    gives_readPositive_iff, gives_readPositiveFloat_iff]
  constructor
  · rintro ⟨_, scale, ⟨_, penalty, ⟨_, maximum, ⟨_, zero, ⟨_, realistic, ⟨_, lists, ⟨_, pairs,
      ⟨⟨⟩, hknown, rfl⟩, hpairs, rfl⟩, ⟨names, hnames, rfl⟩, rfl⟩, hrealistic, rfl⟩, hzero, rfl⟩,
      hmaximum, rfl⟩, hpenalty, rfl⟩, hscale, rfl⟩
    refine ⟨hknown, ⟨pairs, hpairs, rfl⟩, fun l => ?_, hrealistic, hzero, hmaximum, hpenalty,
      hscale⟩
    change Value.Gives es l.text _ _ (namesAmong _ l)
    rw [namesAmong_all]
    exact hnames l
  · rintro ⟨hknown, ⟨pairs, hpairs, hrules⟩, hlists, hrealistic, hzero, hmaximum, hpenalty, hscale⟩
    refine ⟨_, ⟨p.resultScale, p.resultScale_pos⟩, ⟨_, p.syntaxErrorPenalty,
      ⟨_, ⟨p.maxScore, p.maxScore_pos⟩, ⟨_, p.zeroOnCheat, ⟨_, p.realistic, ⟨_, _, ⟨_, pairs,
      ⟨(), hknown, rfl⟩, hpairs, rfl⟩, ⟨p.lists, hlists, rfl⟩, rfl⟩, hrealistic, rfl⟩, hzero, rfl⟩,
      hmaximum, rfl⟩, hpenalty, rfl⟩, hscale, ?_⟩
    unfold assemble
    simp only [hrules, namesAmong_all]

/-- A policy is read from a mapping exactly if the mapping says all that it is. -/
theorem ofValue_eq_ok_iff {es : List (Value × Value)} {p : Policy} :
    ofValue (.dict es) = .ok p ↔ ReadFrom es p := by
  have hread : ofValue (.dict es) = .ok p ↔
      ∃ cs, (Value.lookup (.str "rules") es).elim (.ok []) rulesOf = .ok cs ∧
        ofEntries cs es = .ok p := by
    cases hsaid : Value.lookup (.str "rules") es with
    | none =>
      have hvalue : ofValue (.dict es) = (ofEntries [] es).mapError Checked.failure := by
        simp only [ofValue, hsaid]
        rfl
      simp only [hvalue, Traversal.mapError_eq_ok_iff, Option.elim, Except.ok.injEq,
        exists_eq_left']
    | some w =>
      simp only [ofValue, hsaid, Traversal.bind_eq_ok_iff, Traversal.mapError_eq_ok_iff,
        Option.elim]
  simp only [hread, ofEntries_eq_ok_iff, Value.knownKeys_eq_ok_iff]
  constructor
  · rintro ⟨cs, hcs, hknown, ⟨pairs, hpairs, hrules⟩, hlists, hrealistic, hzero, hmaximum, hpenalty,
      hscale⟩
    exact ⟨hknown, settingsAmong_eq_iff.mp ⟨cs, pairs, hcs, hpairs, hrules⟩, hlists, hrealistic,
      hzero, hmaximum, hpenalty, hscale⟩
  · rintro ⟨hknown, hrules, hlists, hrealistic, hzero, hmaximum, hpenalty, hscale⟩
    obtain ⟨cs, pairs, hcs, hpairs, hrules⟩ := settingsAmong_eq_iff.mpr hrules
    exact ⟨cs, hcs, hknown, ⟨pairs, hpairs, hrules⟩, hlists, hrealistic, hzero, hmaximum, hpenalty,
      hscale⟩

end Policy

end Grader
