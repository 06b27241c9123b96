import Grader.Proofs.Policy.Reachable
import Grader.Proofs.Policy.Refusal
import Grader.Proofs.Policy.RoundTrip

/-! How changes of a policy compose. A change is read together with everything else that the policy
says, so that changes come apart only because what is read once is read again as it is. Field by
field, a change that succeeds sets what it names and keeps the rest (`withOverrides_eq_ok_iff`), and
setting a field twice is setting it to what was said last (`becomes_becomes`). -/

namespace Grader

namespace Text

/-- Removing the blanks at the ends leaves no blank at the ends. -/
theorem strip_strip (s : String) : strip (strip s) = strip s := by
  set front := s.toList.dropWhile isBlank with hfront
  have hstrip : strip s = String.ofList (front.rdropWhile isBlank) := rfl
  -- What is removed at the back leaves the first character where it is.
  have hdrop : (front.rdropWhile isBlank).dropWhile isBlank = front.rdropWhile isBlank := by
    refine List.dropWhile_eq_self_iff.mpr fun hlength => ?_
    have hfirst := (List.rdropWhile_prefix isBlank front).getElem hlength
    rw [hfirst]
    exact List.dropWhile_eq_self_iff.mp (List.dropWhile_idempotent isBlank s.toList) _
  rw [hstrip]
  unfold strip trimBack trimFront
  rw [String.toList_ofList, hdrop]
  exact congrArg String.ofList (List.rdropWhile_idempotent isBlank front)

end Text

theorem Value.isTrimmed_of_mem_strippedNames {items : List Value} {s : String}
    (h : s ∈ strippedNames items) : Text.isTrimmed s = true := by
  obtain ⟨v, -, hv⟩ := List.mem_filterMap.mp h
  cases v with
  | str t =>
    simp only at hv
    split at hv
    · cases hv
    · rename_i hne
      cases hv
      simpa [Text.isTrimmed, Text.strip_strip] using hne
  | _ => cases hv

/-- Nothing, a name, or a sequence that keeps its order. -/
def Value.IsNames : Value → Prop
  | none | str _ | list _ | tuple _ => True
  | _ => False

theorem Value.isTrimmed_of_readNames {v : Value} (hv : v.IsNames) {names : List String}
    (h : readNames v = .ok names) : ∀ s ∈ names, Text.isTrimmed s = true := by
  intro s hs
  cases v with
  | none =>
    cases h
    cases hs
  | str t =>
    cases h
    exact isTrimmed_of_mem_strippedNames hs
  | list xs =>
    cases h
    exact isTrimmed_of_mem_strippedNames hs
  | tuple xs =>
    cases h
    exact isTrimmed_of_mem_strippedNames hs
  | _ => exact hv.elim

/-- A condition on the keys of a mapping with an entry that is set. -/
theorem Value.forall_keys_insert {P : Value → Prop} {es : List (Value × Value)} {b : String}
    {v : Value} :
    (∀ e ∈ insert es (str b) v, P e.1) ↔ (∀ e ∈ es, P e.1) ∧ P (str b) := by
  by_cases hsome : (lookup (str b) es).isSome = true
  · have hkeys := keys_insert hsome v
    have hb : (∀ e ∈ es, P e.1) → P (str b) := by
      obtain ⟨w, hw⟩ := Option.isSome_iff_exists.mp hsome
      obtain ⟨e, he, -⟩ := Option.map_eq_some_iff.mp hw
      intro hes
      have hkey := (same_str b e.1).mp (by simpa using List.find?_some he)
      exact hkey ▸ hes e (List.mem_of_find?_eq_some he)
    have hall (l : List (Value × Value)) : (∀ e ∈ l, P e.1) ↔ ∀ k ∈ l.map (·.1), P k := by simp
    rw [hall, hkeys, ← hall]
    exact (and_iff_left_of_imp hb).symm
  · unfold insert
    rw [if_neg hsome]
    simp [or_imp, forall_and]

namespace Policy

/-- What changes say about a field. The last one that names it counts. -/
def said : List (String × Value) → String → Option Value
  | [], _ => none
  | c :: cs, k => (said cs k).or (if c.1 = k then some c.2 else none)

/-- Changes with others over them, which replace what is said about the same fields. -/
def overlay (a b : List (String × Value)) : List (String × Value) :=
  a.filter (fun c => (said b c.1).isNone) ++ b

section Said

variable (a b : List (String × Value)) (k : String)

theorem said_append : said (a ++ b) k = (said b k).or (said a k) := by
  induction a with
  | nil => simp [said]
  | cons c a ih => rw [List.cons_append, said, ih, said, Option.or_assoc]

theorem said_overlay : said (overlay a b) k = (said b k).or (said a k) := by
  have hfilter : (said b k).or (said (a.filter fun c => (said b c.1).isNone) k) =
      (said b k).or (said a k) := by
    induction a with
    | nil => rfl
    | cons c a ih =>
      rw [List.filter_cons]
      split
      · rw [said, said, ← Option.or_assoc, ih, Option.or_assoc]
      · rename_i hnamed
        rw [ih, said, ← Option.or_assoc]
        split
        · rename_i hk
          subst hk
          obtain ⟨v, hv⟩ := Option.ne_none_iff_exists'.mp (by simpa using hnamed)
          simp [hv]
        · rw [Option.or_none]
  rw [overlay, said_append, hfilter]

theorem isSome_said_cons (c : String × Value) :
    (said (c :: a) k).isSome = true ↔ c.1 = k ∨ (said a k).isSome = true := by
  rw [said, Option.isSome_or, Bool.or_eq_true, or_comm]
  refine or_congr_left ?_
  by_cases hk : c.1 = k
  · simp [hk]
  · simp [hk]

theorem isSome_said_iff : (said a k).isSome = true ↔ k ∈ a.map (·.1) := by
  induction a with
  | nil => simp [said]
  | cons c a ih => rw [isSome_said_cons, ih, List.map_cons, List.mem_cons, eq_comm]

/-- Nothing is said by changes about what is named by changes of other fields. -/
theorem said_eq_none_of_apart {a b : List (String × Value)} {k : String}
    (h : ∀ c ∈ a, ∀ d ∈ b, c.1 ≠ d.1) (hk : (said a k).isSome = true) : said b k = none := by
  rw [← Option.not_isSome_iff_eq_none, isSome_said_iff]
  intro hb
  obtain ⟨c, hc, rfl⟩ := List.mem_map.mp ((isSome_said_iff a k).mp hk)
  obtain ⟨d, hd, hname⟩ := List.mem_map.mp hb
  exact h c hc d hd hname.symm

theorem mem_of_said {a : List (String × Value)} {k : String} {v : Value}
    (h : said a k = some v) : (k, v) ∈ a := by
  induction a with
  | nil => cases h
  | cons c a ih =>
    rw [said, Option.or_eq_some_iff] at h
    rcases h with h | ⟨-, h⟩
    · exact List.mem_cons_of_mem c (ih h)
    · obtain ⟨rfl, hv⟩ := Option.ite_none_right_eq_some.mp h
      cases hv
      exact List.mem_cons_self

end Said

/-- What changed entries hold under a key: what was said about it, or what was there. -/
theorem lookup_withEntries (es : List (Value × Value)) (changes : List (String × Value))
    (k : String) : Value.lookup (.str k) (withEntries es (changes.map fun c => (.str c.1, c.2))) =
      (said changes k).or (Value.lookup (.str k) es) := by
  induction changes generalizing es with
  | nil => rfl
  | cons c changes ih =>
    refine (ih (Value.insert es (.str c.1) c.2)).trans ?_
    rw [Value.lookup_insert, said, Option.or_assoc]
    by_cases hk : c.1 = k
    · simp [hk]
    · simp [hk, Ne.symm hk]

/-- A condition holds of the keys of changed entries exactly if it holds of those that were there
and of those that are changed. -/
theorem forall_keys_withEntries {P : Value → Prop} {es : List (Value × Value)}
    {changes : List (String × Value)} :
    (∀ e ∈ withEntries es (changes.map fun c => (.str c.1, c.2)), P e.1) ↔
      (∀ e ∈ es, P e.1) ∧ ∀ k, (said changes k).isSome = true → P (.str k) := by
  induction changes generalizing es with
  | nil => simp [withEntries, said]
  | cons c changes ih =>
    refine (@ih (Value.insert es (.str c.1) c.2)).trans ?_
    rw [Value.forall_keys_insert, and_assoc]
    refine and_congr_right fun _ => ?_
    simp only [isSome_said_cons, or_imp, forall_and, forall_eq']

/-- What becomes of a field: what is read from what is said about it, and nothing else. -/
def Becomes {α : Type} (Reads : Value → α → Prop) (said : Option Value) (old new : α) : Prop :=
  match said with
  | some v => Reads v new
  | none => new = old

/-- What is read from a value is a single thing. -/
def Single {α : Type} (Reads : Value → α → Prop) : Prop := ∀ v x y, Reads v x → Reads v y → x = y

/-- A field that is set and then set again is set to what was said last. -/
theorem becomes_becomes {α : Type} {Reads : Value → α → Prop} (hreads : Single Reads)
    {first second : Option Value} {old mid new : α} (h : Becomes Reads first old mid) :
    Becomes Reads second mid new ↔ Becomes Reads (second.or first) old new := by
  cases second with
  | some v => exact Iff.rfl
  | none =>
    cases first with
    | none =>
      cases h
      exact Iff.rfl
    | some v =>
      constructor
      · rintro rfl
        exact h
      · intro hnew
        exact hreads v new mid hnew h

/-- What a reading gives for a value. -/
def Reads {α : Type} (read : Value → Checked α) (v : Value) (a : α) : Prop := read v = .ok a

theorem single_reads {α : Type} (read : Value → Checked α) : Single (Reads read) :=
  fun _ _ _ hx hy => Except.ok.inj (hx.symm.trans hy)

theorem settlesRules_unique {said : Option Value} {rules rules' : RuleName → RuleSettings}
    (h : SettlesRules said rules) (h' : SettlesRules said rules') : rules = rules' := by
  obtain ⟨cs, pairs, hcs, hpairs, rfl⟩ := settingsAmong_eq_iff.mpr h
  obtain ⟨cs', pairs', hcs', hpairs', rfl⟩ := settingsAmong_eq_iff.mpr h'
  obtain rfl := Except.ok.inj (hcs.symm.trans hcs')
  obtain rfl := Except.ok.inj (hpairs.symm.trans hpairs')
  rfl

theorem settles_unique {r : RuleName} {said : Option Value} {s s' : RuleSettings}
    (h : r.Settles said s) (h' : r.Settles said s') : s = s' :=
  Except.ok.inj (Except.ok.inj ((ruleOf_eq_ok_iff.mpr h).symm.trans (ruleOf_eq_ok_iff.mpr h')))

/-- A field of changed entries that held what is read back as it was. -/
theorem gives_iff_becomes {α : Type} {es : List (Value × Value)} {key : String}
    {read : Value → Checked α} {absent old new : α} {said : Option Value} {held : Value}
    (hes : Value.lookup (.str key) es = said.or (some held)) (hheld : read held = .ok old) :
    Value.Gives es key read absent new ↔ Becomes (Reads read) said old new := by
  unfold Value.Gives Becomes
  rw [hes]
  cases said with
  | some v => exact Iff.rfl
  | none =>
    change read held = .ok new ↔ new = old
    rw [hheld, Except.ok.injEq, eq_comm]

/-- A policy comes of another by what is said about its fields: every field that something is said
about is what is read from that, and the others are as they were. -/
structure Changed (p : Policy) (said : String → Option Value) (q : Policy) : Prop where
  known : ∀ k, (said k).isSome = true → k ∈ keys
  rules : Becomes (fun v => SettlesRules (some v)) (said "rules") p.rules q.rules
  lists : ∀ l : NameList, Becomes (Reads Value.readNames) (said l.text) (p.lists l) (q.lists l)
  realistic : Becomes (Reads Value.readTruth) (said "realistic") p.realistic q.realistic
  zeroOnCheat : Becomes (Reads Value.readTruth) (said "zero_on_cheat") p.zeroOnCheat q.zeroOnCheat
  maxScore : Becomes (Reads Value.readInteger) (said "max_score") (p.maxScore : Int) q.maxScore
  syntaxErrorPenalty : Becomes (Reads Value.readInteger) (said "syntax_error_penalty")
    (p.syntaxErrorPenalty : Int) q.syntaxErrorPenalty
  resultScale : Becomes (Reads Value.readFloat) (said "result_scale") p.resultScale q.resultScale

/-- A policy keeps the fields of another that are not named. -/
structure KeepsOff (names : List String) (p q : Policy) : Prop where
  rules : "rules" ∉ names → q.rules = p.rules
  lists : ∀ l : NameList, l.text ∉ names → q.lists l = p.lists l
  realistic : "realistic" ∉ names → q.realistic = p.realistic
  zeroOnCheat : "zero_on_cheat" ∉ names → q.zeroOnCheat = p.zeroOnCheat
  maxScore : "max_score" ∉ names → q.maxScore = p.maxScore
  syntaxErrorPenalty : "syntax_error_penalty" ∉ names → q.syntaxErrorPenalty = p.syntaxErrorPenalty
  resultScale : "result_scale" ∉ names → q.resultScale = p.resultScale

namespace KeepsOff

variable {names : List String} {p q r : Policy}

theorem symm (h : KeepsOff names p q) : KeepsOff names q p where
  rules hk := (h.rules hk).symm
  lists l hk := (h.lists l hk).symm
  realistic hk := (h.realistic hk).symm
  zeroOnCheat hk := (h.zeroOnCheat hk).symm
  maxScore hk := (h.maxScore hk).symm
  syntaxErrorPenalty hk := (h.syntaxErrorPenalty hk).symm
  resultScale hk := (h.resultScale hk).symm

theorem trans (h : KeepsOff names p q) (h' : KeepsOff names q r) : KeepsOff names p r where
  rules hk := (h'.rules hk).trans (h.rules hk)
  lists l hk := (h'.lists l hk).trans (h.lists l hk)
  realistic hk := (h'.realistic hk).trans (h.realistic hk)
  zeroOnCheat hk := (h'.zeroOnCheat hk).trans (h.zeroOnCheat hk)
  maxScore hk := (h'.maxScore hk).trans (h.maxScore hk)
  syntaxErrorPenalty hk := (h'.syntaxErrorPenalty hk).trans (h.syntaxErrorPenalty hk)
  resultScale hk := (h'.resultScale hk).trans (h.resultScale hk)

/-- With other rules, a policy keeps all its other fields. -/
theorem with_rules (p : Policy) (rules : RuleName → RuleSettings) :
    KeepsOff ["rules"] p { p with rules } where
  rules hk := absurd List.mem_cons_self hk
  lists _ _ := rfl
  realistic _ := rfl
  zeroOnCheat _ := rfl
  maxScore _ := rfl
  syntaxErrorPenalty _ := rfl
  resultScale _ := rfl

end KeepsOff

section Changes

variable {p q r : Policy} {changes : List (String × Value)}

/-- A change succeeds exactly with the policy that comes of what it says. -/
theorem withOverrides_eq_ok_iff (hp : p.HasTrimmedNames) :
    p.withOverrides changes = .ok q ↔ Changed p (said changes) q := by
  set es := withEntries p.entries (changes.map fun c => (.str c.1, c.2)) with hes
  have hlookup (k : String) :
      Value.lookup (.str k) es = (said changes k).or (Value.lookup (.str k) p.entries) :=
    lookup_withEntries p.entries changes k
  -- Every entry is read again, also those that nothing is said about: these are the ones that the
  -- policy wrote itself, and they are read as they were.
  have hread : p.withOverrides changes = .ok q ↔ ReadFrom es q := by
    rw [← ofValue_eq_ok_iff]
    exact Traversal.mapError_eq_ok_iff
  have hknown : (∀ e ∈ es, ∃ k ∈ keys, e.1 = .str k) ↔
      ∀ k, (said changes k).isSome = true → k ∈ keys := by
    have hentries : ∀ e ∈ p.entries, ∃ k ∈ keys, e.1 = .str k :=
      Value.exists_of_map_fst (p.entriesAs_list ▸ p.map_fst_entriesAs)
    rw [hes, forall_keys_withEntries (P := fun v => ∃ k ∈ keys, v = .str k),
      and_iff_right hentries]
    simp
  have hrules : SettlesRules (Value.lookup (.str "rules") es) q.rules ↔
      Becomes (fun v => SettlesRules (some v)) (said changes "rules") p.rules q.rules := by
    have hheld : SettlesRules (Value.lookup (.str "rules") p.entries) p.rules :=
      p.entriesAs_list ▸ p.settlesRules_entriesAs
    rw [hlookup]
    cases said changes "rules" with
    | some v => exact Iff.rfl
    | none => exact ⟨fun h => settlesRules_unique h hheld, fun h => h ▸ hheld⟩
  have hlist (l : NameList) : Value.Gives es l.text Value.readNames l.default (q.lists l) ↔
      Becomes (Reads Value.readNames) (said changes l.text) (p.lists l) (q.lists l) := by
    have hheld : Value.lookup (.str l.text) p.entries = some (.list ((p.lists l).map .str)) :=
      p.entriesAs_list ▸ p.lookup_entriesAs_list l
    exact gives_iff_becomes ((hlookup _).trans (congrArg _ hheld))
      (congrArg _ (strippedNames_of_trimmed (hp l)))
  obtain ⟨hrealistic, hzero, hmaximum, hpenalty, hscale⟩ := p.lookup_entriesAs_options .list
  rw [entriesAs_list] at hrealistic hzero hmaximum hpenalty hscale
  have hoption {α : Type} {k : String} {v : Value} (read : Value → Checked α)
      {absent old new : α} (hk : Value.lookup (.str k) p.entries = some v)
      (hv : read v = .ok old) :
      Value.Gives es k read absent new ↔ Becomes (Reads read) (said changes k) old new :=
    gives_iff_becomes ((hlookup k).trans (congrArg _ hk)) hv
  rw [hread]
  constructor
  · intro h
    exact ⟨hknown.mp h.known, hrules.mp h.rules, fun l => (hlist l).mp (h.lists l),
      (hoption Value.readTruth hrealistic rfl).mp h.realistic,
      (hoption Value.readTruth hzero rfl).mp h.zeroOnCheat,
      (hoption Value.readInteger hmaximum rfl).mp h.maxScore,
      (hoption Value.readInteger hpenalty rfl).mp h.syntaxErrorPenalty,
      (hoption Value.readFloat hscale rfl).mp h.resultScale⟩
  · intro h
    exact ⟨hknown.mpr h.known, hrules.mpr h.rules, fun l => (hlist l).mpr (h.lists l),
      (hoption Value.readTruth hrealistic rfl).mpr h.realistic,
      (hoption Value.readTruth hzero rfl).mpr h.zeroOnCheat,
      (hoption Value.readInteger hmaximum rfl).mpr h.maxScore,
      (hoption Value.readInteger hpenalty rfl).mpr h.syntaxErrorPenalty,
      (hoption Value.readFloat hscale rfl).mpr h.resultScale⟩

/-- Changes of a policy come one after the other as one change that says what was said last. -/
theorem Changed.then_iff {first second : String → Option Value} (h : Changed p first q) :
    Changed q second r ↔ Changed p (fun k => (second k).or (first k)) r := by
  have hknown : (∀ k, (second k).isSome = true → k ∈ keys) ↔
      ∀ k, ((second k).or (first k)).isSome = true → k ∈ keys := by
    simp only [Option.isSome_or, Bool.or_eq_true, or_imp, forall_and, and_iff_left h.known]
  have hrules : Becomes _ (second "rules") q.rules r.rules ↔
      Becomes _ ((second "rules").or (first "rules")) p.rules r.rules :=
    have hsingle : Single fun v rules => SettlesRules (some v) rules :=
      fun _ _ _ hx hy => settlesRules_unique hx hy
    becomes_becomes hsingle h.rules
  have hfield {α : Type} {read : Value → Checked α} {k : String} {old mid new : α}
      (hk : Becomes (Reads read) (first k) old mid) :
      Becomes (Reads read) (second k) mid new ↔
        Becomes (Reads read) ((second k).or (first k)) old new :=
    becomes_becomes (single_reads read) hk
  constructor
  · intro h'
    exact ⟨hknown.mp h'.known, hrules.mp h'.rules, fun l => (hfield (h.lists l)).mp (h'.lists l),
      (hfield h.realistic).mp h'.realistic, (hfield h.zeroOnCheat).mp h'.zeroOnCheat,
      (hfield h.maxScore).mp h'.maxScore,
      (hfield h.syntaxErrorPenalty).mp h'.syntaxErrorPenalty,
      (hfield h.resultScale).mp h'.resultScale⟩
  · intro h'
    exact ⟨hknown.mpr h'.known, hrules.mpr h'.rules, fun l => (hfield (h.lists l)).mpr (h'.lists l),
      (hfield h.realistic).mpr h'.realistic, (hfield h.zeroOnCheat).mpr h'.zeroOnCheat,
      (hfield h.maxScore).mpr h'.maxScore,
      (hfield h.syntaxErrorPenalty).mpr h'.syntaxErrorPenalty,
      (hfield h.resultScale).mpr h'.resultScale⟩

/-- Nothing becomes of a field that is not named. -/
theorem eq_of_becomes {α : Type} {Reads : Value → α → Prop} {k : String} {old new : α}
    (hk : k ∉ changes.map (·.1)) (h : Becomes Reads (said changes k) old new) : new = old := by
  have hnone : said changes k = none := by
    rw [← Option.not_isSome_iff_eq_none, isSome_said_iff]
    exact hk
  rw [hnone] at h
  exact h

theorem Changed.keepsOff (h : Changed p (said changes) q) : KeepsOff (changes.map (·.1)) p q where
  rules hk := eq_of_becomes hk h.rules
  lists l hk := eq_of_becomes hk (h.lists l)
  realistic hk := eq_of_becomes hk h.realistic
  zeroOnCheat hk := eq_of_becomes hk h.zeroOnCheat
  maxScore hk := Int.natCast_inj.mp (eq_of_becomes hk h.maxScore)
  syntaxErrorPenalty hk := Int.natCast_inj.mp (eq_of_becomes hk h.syntaxErrorPenalty)
  resultScale hk := eq_of_becomes hk h.resultScale

/-- What is said about a list of names is nothing, a name or a sequence of names. -/
theorem Changed.hasTrimmedNames (hp : p.HasTrimmedNames) (h : Changed p (said changes) q)
    (hnames : ∀ c ∈ changes, (∃ l : NameList, c.1 = l.text) → c.2.IsNames) :
    q.HasTrimmedNames := by
  intro l
  have hlist := h.lists l
  cases hsaid : said changes l.text with
  | none =>
    rw [hsaid] at hlist
    rw [hlist]
    exact hp l
  | some v =>
    rw [hsaid] at hlist
    exact Value.isTrimmed_of_readNames (hnames _ (mem_of_said hsaid) ⟨l, rfl⟩) hlist

/-- A change of the rules alone settles them and keeps everything else. -/
theorem changed_rules_iff {v : Value} :
    Changed p (said [("rules", v)]) q ↔ SettlesRules (some v) q.rules ∧ KeepsOff ["rules"] p q := by
  have hrules : said [("rules", v)] "rules" = some v := by simp [said]
  have hnone {k : String} (hk : k ≠ "rules") : said [("rules", v)] k = none := by
    simp [said, Ne.symm hk]
  have hkeeps {α : Type} {Reads : Value → α → Prop} {k : String} {old new : α} (hk : k ≠ "rules")
      (h : new = old) : Becomes Reads (said [("rules", v)] k) old new := by
    rw [hnone hk]
    exact h
  constructor
  · intro h
    have hsettles := h.rules
    rw [hrules] at hsettles
    exact ⟨hsettles, h.keepsOff⟩
  · rintro ⟨hsettles, h⟩
    refine ⟨fun k hk => ?_, ?_, fun l => ?_, ?_, ?_, ?_, ?_, ?_⟩
    · by_cases hname : k = "rules"
      · rw [hname]
        decide
      · rw [hnone hname] at hk
        cases hk
    · rw [hrules]
      exact hsettles
    · have hl : l.text ≠ "rules" := by cases l <;> decide
      exact hkeeps hl (h.lists l (by simpa using hl))
    · exact hkeeps (by decide) (h.realistic (by decide))
    · exact hkeeps (by decide) (h.zeroOnCheat (by decide))
    · exact hkeeps (by decide) (Int.natCast_inj.mpr (h.maxScore (by decide)))
    · exact hkeeps (by decide) (Int.natCast_inj.mpr (h.syntaxErrorPenalty (by decide)))
    · exact hkeeps (by decide) (h.resultScale (by decide))

/-- What a refused change says: the names of the fields, sorted. -/
theorem refusal_of_withOverrides {f : Failure} (h : p.withOverrides changes = .error f)
    (hrules : ∀ v, said changes "rules" = some v → ¬v.HasUntextualKey) :
    f.kind = "ValueError" ∧ ∃ names, names.Perm (changes.map (·.1)) ∧
      names.Pairwise (· ≤ ·) ∧
      f.text = "Invalid policy overrides: " ++ Text.Quoted.list names := by
  obtain ⟨g, hg, rfl⟩ := Traversal.mapError_eq_error_iff.mp h
  have hheld : Value.lookup (.str "rules") p.entries = some (.dict p.rulesValue) := by
    rw [← entriesAs_list]
    exact p.lookup_entriesAs_rules
  have hkind : g.kind = "ValidationError" := by
    rcases isOf_of_ofValue_eq_error hg with ⟨hkind, -⟩ | ⟨-, v, hv, hkey⟩
    · exact hkind.kind
    · -- The rules that the policy has itself are named by texts.
      rw [lookup_withEntries, hheld] at hv
      cases hsaid : said changes "rules" with
      | some w =>
        rw [hsaid] at hv
        cases hv
        exact absurd hkey (hrules _ hsaid)
      | none =>
        rw [hsaid] at hv
        cases hv
        obtain ⟨e, he, htext⟩ := hkey
        obtain ⟨r, -, hr⟩ := Value.exists_of_map_fst p.map_fst_rulesValue e he
        rw [hr] at htext
        cases htext
  have hrefused : refusedChanges (changes.map (·.1)) g =
      { Failure.value ("Invalid policy overrides: " ++
          Text.Quoted.list ((changes.map (·.1)).mergeSort (· ≤ ·))) with
        details := g.details } := by
    unfold refusedChanges
    rw [hkind]
    rfl
  rw [hrefused]
  have hsorted := @List.pairwise_mergeSort String (fun a b => decide (a ≤ b))
    (fun _ _ _ hab hbc => decide_eq_true (le_trans (of_decide_eq_true hab) (of_decide_eq_true hbc)))
    (fun a b => by simpa using le_total a b) (changes.map (·.1))
  exact ⟨rfl, _, List.mergeSort_perm _ _, hsorted.imp of_decide_eq_true, rfl⟩

end Changes

section Toggles

variable {p q r : Policy} {toggles : List (String × Value)}

/-- A policy comes of another by what is said about its rules, and keeps everything else. -/
structure Toggled (p : Policy) (said : String → Option Value) (q : Policy) : Prop where
  known : ∀ k, (said k).isSome = true → ∃ n : RuleName, k = n.text
  rules : ∀ n : RuleName,
    Becomes (fun v => n.Settles (some v)) (said n.text) (p.rules n) (q.rules n)
  others : KeepsOff ["rules"] p q

theorem withRules_eq_ok_iff (hp : p.HasTrimmedNames) :
    p.withRules toggles = .ok q ↔ Toggled p (said toggles) q := by
  set es := withEntries p.rulesValue (toggles.map fun c => (.str c.1, c.2)) with hes
  have hsettles : SettlesRules (some (.dict es)) q.rules ↔
      (∀ k, (said toggles k).isSome = true → ∃ n : RuleName, k = n.text) ∧
        ∀ n : RuleName,
          Becomes (fun v => n.Settles (some v)) (said toggles n.text) (p.rules n) (q.rules n) := by
    have hheld := Value.exists_of_map_fst p.map_fst_rulesValue
    rw [settlesRules_dict_iff, hes,
      forall_keys_withEntries (P := fun v => ∃ n : RuleName, v = .str n.text),
      and_iff_right fun e he => (hheld e he).imp fun _ hn => hn.2]
    simp only [Value.str.injEq]
    refine and_congr_right fun _ => forall_congr' fun n => ?_
    rw [lookup_withEntries, lookup_rulesValue]
    cases said toggles n.text with
    | some v => exact Iff.rfl
    | none =>
      have hsame := settles_toValue n (p.rules n)
      exact ⟨fun h => settles_unique h hsame, fun h => h ▸ hsame⟩
  unfold withRules
  rw [withOverrides_eq_ok_iff hp, changed_rules_iff, hsettles, and_assoc]
  exact ⟨fun ⟨hknown, hrules, hothers⟩ => ⟨hknown, hrules, hothers⟩,
    fun ⟨hknown, hrules, hothers⟩ => ⟨hknown, hrules, hothers⟩⟩

theorem Toggled.hasTrimmedNames (hp : p.HasTrimmedNames) {said : String → Option Value}
    (h : Toggled p said q) : q.HasTrimmedNames := by
  intro l
  have hl : l.text ∉ ["rules"] := by cases l <;> decide
  rw [h.others.lists l hl]
  exact hp l

/-- Toggles come one after the other as the toggles that say what was said last. -/
theorem Toggled.then_iff {first second : String → Option Value} (h : Toggled p first q) :
    Toggled q second r ↔ Toggled p (fun k => (second k).or (first k)) r := by
  have hknown : (∀ k, (second k).isSome = true → ∃ n : RuleName, k = n.text) ↔
      ∀ k, ((second k).or (first k)).isSome = true → ∃ n : RuleName, k = n.text := by
    simp only [Option.isSome_or, Bool.or_eq_true, or_imp, forall_and, and_iff_left h.known]
  have hrule (n : RuleName) :
      Becomes (fun v => n.Settles (some v)) (second n.text) (q.rules n) (r.rules n) ↔
        Becomes (fun v => n.Settles (some v)) ((second n.text).or (first n.text)) (p.rules n)
          (r.rules n) := by
    have hsingle : Single fun v s => n.Settles (some v) s :=
      fun _ _ _ hx hy => settles_unique hx hy
    exact becomes_becomes hsingle (h.rules n)
  exact ⟨fun h' => ⟨hknown.mp h'.known, fun n => (hrule n).mp (h'.rules n),
      h.others.trans h'.others⟩,
    fun h' => ⟨hknown.mpr h'.known, fun n => (hrule n).mpr (h'.rules n),
      h.others.symm.trans h'.others⟩⟩

/-- Toggles that succeed together with toggles of other rules succeed without them. -/
theorem Toggled.exists_first {first second : String → Option Value}
    (hapart : ∀ k, (first k).isSome = true → second k = none)
    (h : Toggled p (fun k => (second k).or (first k)) r) : ∃ q, Toggled p first q := by
  -- The rules that the first ones name are as they are in the end, since nothing else names them.
  let rules (n : RuleName) := if (first n.text).isSome then r.rules n else p.rules n
  refine ⟨{ p with rules }, fun k hk => h.known k ?_, fun n => ?_, .with_rules p rules⟩
  · rw [hapart k hk]
    exact hk
  · have hn := h.rules n
    change Becomes _ _ _ (if (first n.text).isSome then r.rules n else p.rules n)
    cases hfirst : first n.text with
    | none => exact if_neg Bool.false_ne_true
    | some v =>
      rw [hapart n.text (by rw [hfirst]; rfl), hfirst] at hn
      exact hn

/-- Toggles and then others are one call with both, if they are of other rules. -/
theorem withRules_append_iff (hp : p.HasTrimmedNames) {s t : List (String × Value)}
    (hst : ∀ c ∈ s, ∀ d ∈ t, c.1 ≠ d.1) :
    p.withRules (s ++ t) = .ok r ↔ ∃ q, p.withRules s = .ok q ∧ q.withRules t = .ok r := by
  have hjoined : said (s ++ t) = fun k => (said t k).or (said s k) := funext (said_append s t)
  rw [withRules_eq_ok_iff hp, hjoined]
  constructor
  · intro h
    obtain ⟨q, hq⟩ := h.exists_first fun k hk => said_eq_none_of_apart hst hk
    exact ⟨q, (withRules_eq_ok_iff hp).mpr hq,
      (withRules_eq_ok_iff (hq.hasTrimmedNames hp)).mpr (hq.then_iff.mpr h)⟩
  · rintro ⟨q, hq, hr⟩
    have hq' := (withRules_eq_ok_iff hp).mp hq
    exact hq'.then_iff.mp ((withRules_eq_ok_iff (hq'.hasTrimmedNames hp)).mp hr)

/-- The order of toggles of other rules does not matter. -/
theorem withRules_append_comm (hp : p.HasTrimmedNames) {s t : List (String × Value)}
    (hst : ∀ c ∈ s, ∀ d ∈ t, c.1 ≠ d.1) :
    p.withRules (s ++ t) = .ok r ↔ p.withRules (t ++ s) = .ok r := by
  have hsame : said (s ++ t) = said (t ++ s) := by
    funext k
    rw [said_append, said_append]
    cases hs : said s k with
    | none => simp
    | some v => rw [said_eq_none_of_apart hst (by rw [hs]; rfl), Option.none_or, Option.or_none]
  rw [withRules_eq_ok_iff hp, withRules_eq_ok_iff hp, hsame]

/-- Only the rules are changed, and of these only the ones that are named. -/
theorem withRules_keeps (hp : p.HasTrimmedNames) (h : p.withRules toggles = .ok q) :
    KeepsOff ["rules"] p q ∧
      ∀ n : RuleName, n.text ∉ toggles.map (·.1) → q.rules n = p.rules n := by
  have htoggled := (withRules_eq_ok_iff hp).mp h
  exact ⟨htoggled.others, fun n hn => eq_of_becomes hn (htoggled.rules n)⟩

theorem refusal_of_withRules {f : Failure} (h : p.withRules toggles = .error f) :
    f.kind = "ValueError" ∧ f.text = "Invalid policy overrides: ['rules']" := by
  have htext : ∀ v, said [("rules", Value.dict (withEntries p.rulesValue
      (toggles.map fun c => (.str c.1, c.2))))] "rules" = some v → ¬v.HasUntextualKey := by
    intro v hv hkey
    have hsaid : said [("rules", Value.dict (withEntries p.rulesValue
        (toggles.map fun c => (.str c.1, c.2))))] "rules" = some (.dict (withEntries p.rulesValue
        (toggles.map fun c => (.str c.1, c.2)))) := by simp [said]
    obtain rfl := Option.some.inj (hsaid.symm.trans hv)
    obtain ⟨e, he, huntextual⟩ := hkey
    -- The rules of the policy and those that are toggled are all named by texts.
    have hheld : ∀ e ∈ p.rulesValue, e.1.isText = true := by
      intro e he
      obtain ⟨n, -, hn⟩ := Value.exists_of_map_fst p.map_fst_rulesValue e he
      rw [hn]
      rfl
    have htextual := forall_keys_withEntries (P := fun k => k.isText = true)
      |>.mpr ⟨hheld, fun _ _ => rfl⟩ e he
    rw [huntextual] at htextual
    cases htextual
  obtain ⟨hkind, names, hperm, -, hnames⟩ := refusal_of_withOverrides h htext
  have hlist : names = ["rules"] := List.perm_singleton.mp hperm
  rw [hlist] at hnames
  exact ⟨hkind, hnames.trans (by decide)⟩

end Toggles

/-- Changes of a policy with trimmed names compose field by field. A change that succeeds keeps
what it does not name, and another change after it does what one change does that says what was
said last, if what the first says about lists of names is read to trimmed names. Toggles of other
rules come in any order and are one call with both; they keep the other rules and the other fields.
A change that is refused says which fields it named. -/
theorem updates_compose (p : Policy) (hp : p.HasTrimmedNames) :
    (∀ a q, p.withOverrides a = .ok q → KeepsOff (a.map (·.1)) p q ∧
      ((∀ c ∈ a, (∃ l : NameList, c.1 = l.text) → c.2.IsNames) →
        ∀ b r, q.withOverrides b = .ok r ↔ p.withOverrides (overlay a b) = .ok r)) ∧
    (∀ s t, (∀ c ∈ s, ∀ d ∈ t, c.1 ≠ d.1) → ∀ r,
      (p.withRules (s ++ t) = .ok r ↔ ∃ q, p.withRules s = .ok q ∧ q.withRules t = .ok r) ∧
      (p.withRules (s ++ t) = .ok r ↔ ∃ q, p.withRules t = .ok q ∧ q.withRules s = .ok r)) ∧
    (∀ s q, p.withRules s = .ok q → KeepsOff ["rules"] p q ∧
      ∀ n : RuleName, n.text ∉ s.map (·.1) → q.rules n = p.rules n) ∧
    (∀ a f, p.withOverrides a = .error f →
      (∀ v, said a "rules" = some v → ¬v.HasUntextualKey) →
      f.kind = "ValueError" ∧ ∃ names, names.Perm (a.map (·.1)) ∧ names.Pairwise (· ≤ ·) ∧
        f.text = "Invalid policy overrides: " ++ Text.Quoted.list names) ∧
    ∀ s f, p.withRules s = .error f →
      f.kind = "ValueError" ∧ f.text = "Invalid policy overrides: ['rules']" := by
  refine ⟨fun a q h => ?_, fun s t hst r => ?_, fun s q h => withRules_keeps hp h,
    fun a f h hrules => refusal_of_withOverrides h hrules, fun s f h => refusal_of_withRules h⟩
  · have hq := (withOverrides_eq_ok_iff hp).mp h
    refine ⟨hq.keepsOff, fun hnames b r => ?_⟩
    have hjoined : said (overlay a b) = fun k => (said b k).or (said a k) :=
      funext (said_overlay a b)
    rw [withOverrides_eq_ok_iff (hq.hasTrimmedNames hp hnames), hq.then_iff,
      withOverrides_eq_ok_iff hp, hjoined]
  · have hts : ∀ c ∈ t, ∀ d ∈ s, c.1 ≠ d.1 := fun c hc d hd => (hst d hd c hc).symm
    exact ⟨withRules_append_iff hp hst,
      (withRules_append_comm hp hst).trans (withRules_append_iff hp hts)⟩

/-- A name with blanks around it and a number in quotes are what is kept when other fields change;
two toggles that change places; and two changes that are refused. -/
theorem updates_compose_standard :
    let a : List (String × Value) :=
      [("allowed_imports", .str " math "), ("max_score", .str "7"), ("realistic", .int 0)]
    let b : List (String × Value) :=
      [("max_score", .int 5), ("rules", .dict [(.str "loops", .bool true)])]
    let light : String × Value := ("imports", .dict [(.str "penalty", .int 3)])
    let unnamed : List (String × Value) := [("zero_on_cheat", .str "maybe"), ("max_score", .int 0)]
    (∃ q r, standard.withOverrides a = .ok q ∧ q.zeroOnCheat = true ∧ q.withOverrides b = .ok r ∧
      standard.withOverrides (overlay a b) = .ok r ∧ r.lists .allowedImports = ["math"] ∧
      r.maxScore = 5) ∧
    (∃ q r, standard.withRules [light] = .ok q ∧ q.withRules [("loops", .bool true)] = .ok r ∧
      standard.withRules [light, ("loops", .bool true)] = .ok r ∧
      r.rules .methods = RuleName.settings .methods) ∧
    (∃ f, standard.withOverrides unnamed = .error f ∧ f.kind = "ValueError") ∧
    ∃ f, standard.withRules [("on", .bool true)] = .error f ∧
      f.text = "Invalid policy overrides: ['rules']" := by
  intro a b light unnamed
  have hp : standard.HasTrimmedNames := by
    intro l
    cases l <;> decide
  obtain ⟨hchanges, htoggles, hkeeps, hrefused, hrules⟩ := updates_compose standard hp
  refine ⟨?_, ?_, ?_, ?_⟩
  · obtain ⟨q, r, hq, hr, hnames, hmaximum⟩ : ∃ q r, standard.withOverrides a = .ok q ∧
        q.withOverrides b = .ok r ∧ r.lists .allowedImports = ["math"] ∧ r.maxScore = 5 :=
      ⟨_, _, by rfl, by rfl, by rfl, by rfl⟩
    obtain ⟨hkept, hboth⟩ := hchanges a q hq
    have hplain : ∀ c ∈ a, (∃ l : NameList, c.1 = l.text) → c.2.IsNames := by
      rintro c hc ⟨l, hl⟩
      simp only [a, List.mem_cons, List.not_mem_nil, or_false] at hc
      rcases hc with rfl | rfl | rfl
      · trivial
      · cases l <;> simp [NameList.text] at hl
      · cases l <;> simp [NameList.text] at hl
    exact ⟨q, r, hq, hkept.zeroOnCheat (by decide), hr, (hboth hplain b r).mp hr, hnames, hmaximum⟩
  · obtain ⟨r, hr⟩ : ∃ r, standard.withRules [light, ("loops", .bool true)] = .ok r := ⟨_, by rfl⟩
    have hapart : ∀ c ∈ [light], ∀ d ∈ [("loops", Value.bool true)], c.1 ≠ d.1 := by
      simp [light]
    obtain ⟨q, hq, hq'⟩ := (htoggles _ _ hapart r).1.mp hr
    exact ⟨q, r, hq, hq', hr, (hkeeps _ r hr).2 .methods (by simp [light, RuleName.text])⟩
  · obtain ⟨f, hf⟩ : ∃ f, standard.withOverrides unnamed = .error f := ⟨_, by rfl⟩
    have hnone : ∀ v, said unnamed "rules" = some v → ¬v.HasUntextualKey := by simp [unnamed, said]
    exact ⟨f, hf, (hrefused unnamed f hf hnone).1⟩
  · obtain ⟨f, hf⟩ : ∃ f, standard.withRules [("on", .bool true)] = .error f := ⟨_, by rfl⟩
    exact ⟨f, hf, (hrules _ f hf).2⟩

end Policy

end Grader
