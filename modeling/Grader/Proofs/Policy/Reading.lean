import Grader.Policy.Build
import Grader.Proofs.Traversal

/-! Reading values. What a mapping holds under textual keys, before and after an entry is set; what is
read from the mapping of settings and from a mapping of rules. -/

namespace Grader

namespace Value

theorem same_str (s : String) (v : Value) : (str s).same v = true ↔ v = str s := by
  cases v with
  | str t =>
    change (s == t) = true ↔ _
    rw [beq_iff_eq, str.injEq, eq_comm]
  | _ => exact ⟨fun h => absurd h Bool.false_ne_true, fun h => by cases h⟩

variable (es : List (Value × Value)) (a b : String) (v : Value)

theorem lookup_cons_of_ne {k : Value} (h : k ≠ str a) :
    lookup (str a) ((k, v) :: es) = lookup (str a) es := by
  have hsame : ¬(str a).same k = true := fun hs => h ((same_str a k).mp hs)
  simp [lookup, hsame]

theorem lookup_cons :
    lookup (str a) ((str b, v) :: es) = if a = b then some v else lookup (str a) es := by
  by_cases h : a = b
  · subst h
    have hsame : (str a).same (str a) = true := (same_str a _).mpr rfl
    simp [lookup, hsame]
  · rw [if_neg h, lookup_cons_of_ne _ _ _ fun hs => h (str.inj hs).symm]

theorem lookup_append_single : lookup (str a) (es ++ [(str b, v)]) =
    (lookup (str a) es).or (if a = b then some v else Option.none) := by
  induction es with
  | nil =>
    rw [List.nil_append, lookup_cons]
    rfl
  | cons e es ih =>
    obtain ⟨k, w⟩ := e
    by_cases hk : k = str a
    · subst hk
      rw [List.cons_append, lookup_cons, lookup_cons, if_pos rfl, if_pos rfl]
      rfl
    · rw [List.cons_append, lookup_cons_of_ne _ _ _ hk, lookup_cons_of_ne _ _ _ hk, ih]

theorem lookup_map_set :
    lookup (str a) (es.map fun e => if (str b).same e.1 then (e.1, v) else e) =
      if a = b then (lookup (str a) es).map fun _ => v else lookup (str a) es := by
  induction es with
  | nil => simp [lookup]
  | cons e es ih =>
    obtain ⟨k, w⟩ := e
    rw [List.map_cons]
    by_cases hk : k = str a
    · subst hk
      by_cases hab : a = b
      · subst hab
        simp [(same_str a _).mpr, lookup_cons]
      · have hsame : ¬(str b).same (str a) = true := by
          intro hs
          exact hab (str.inj ((same_str b _).mp hs))
        simp [hsame, hab, lookup_cons]
    · -- The entry has another key, and keeps it whether it is set or not.
      have hkey (x : Value) : lookup (str a) ((k, x) :: es) = lookup (str a) es :=
        lookup_cons_of_ne _ _ _ hk
      split <;> rw [lookup_cons_of_ne _ _ _ hk, hkey, ih]

/-- Setting an entry changes what the mapping holds under its key alone. -/
theorem lookup_insert : lookup (str a) (insert es (str b) v) =
    if a = b then some v else lookup (str a) es := by
  unfold insert
  split
  · rename_i hsome
    rw [lookup_map_set]
    split
    · rename_i hab
      subst hab
      obtain ⟨w, hw⟩ := Option.isSome_iff_exists.mp hsome
      rw [hw]
      rfl
    · rfl
  · rename_i hnone
    rw [lookup_append_single]
    split
    · rename_i hab
      subst hab
      rw [Option.not_isSome_iff_eq_none.mp hnone]
      rfl
    · rw [Option.or_none]

theorem keys_insert {es : List (Value × Value)} {b : String}
    (h : (lookup (str b) es).isSome = true) (v : Value) :
    (insert es (str b) v).map (·.1) = es.map (·.1) := by
  unfold insert
  rw [if_pos h, List.map_map]
  refine List.map_congr_left fun e _ => ?_
  simp only [Function.comp_apply]
  split <;> rfl

/-- A mapping with textual keys that are given by a list of items. -/
theorem lookup_map_pair {α : Type} (items : List α) (text : α → String) (f : α → Value) :
    lookup (str a) (items.map fun x => (str (text x), f x)) =
      (items.find? fun x => text x == a).map f := by
  induction items with
  | nil => rfl
  | cons x items ih =>
    rw [List.map_cons, lookup_cons, ih]
    by_cases h : a = text x
    · rw [if_pos h, List.find?_cons_of_pos (by simp [h])]
      rfl
    · rw [if_neg h, List.find?_cons_of_neg (by simpa using Ne.symm h)]

/-- The keys of a mapping, given by a list of items, are those of the items. -/
theorem exists_of_map_fst {α : Type} {es : List (Value × Value)} {items : List α}
    {key : α → Value} (h : es.map (·.1) = items.map key) :
    ∀ e ∈ es, ∃ a ∈ items, e.1 = key a := by
  intro e he
  have hmem : e.1 ∈ items.map key := h ▸ List.mem_map_of_mem he
  obtain ⟨a, ha, hkey⟩ := List.mem_map.mp hmem
  exact ⟨a, ha, hkey.symm⟩

theorem readNatural_int {least n : Nat} (h : least ≤ n) : readNatural least (int n) = .ok n := by
  have hle : Int.ofNat least ≤ n := Int.ofNat_le.mpr h
  change atLeast least n = _
  unfold atLeast
  rw [if_pos hle, Int.toNat_natCast]

end Value

namespace Checked

theorem all_map_ok {α β : Type} (f : α → β) (xs : List α) :
    all (xs.map fun x => .ok (f x)) = .ok (xs.map f) := by
  induction xs with
  | nil => rfl
  | cons x xs ih =>
    rw [List.map_cons, all, ih]
    rfl

end Checked

namespace RuleSettings

/-- The mapping of settings gives them back, whatever the settings are that it changes. -/
theorem ofEntries_toValue (base s : RuleSettings) :
    ofEntries base ((Value.ofSettings s).map fun e => (.str e.1, e.2)) = .ok s := by
  have hpenalty : Value.readNatural 0 (.int s.penalty) = .ok s.penalty :=
    Value.readNatural_int (Nat.zero_le _)
  unfold ofEntries Value.ofSettings Value.field
  simp only [List.map_cons, List.map_nil, Value.lookup_cons, String.reduceEq, ↓reduceIte, hpenalty]
  rfl

end RuleSettings

namespace Policy

variable (p : Policy)

theorem lookup_rulesValue (n : RuleName) :
    Value.lookup (.str n.text) p.rulesValue = some (p.rules n).toValue := by
  unfold rulesValue
  rw [Value.lookup_map_pair]
  change (RuleName.ofText? n.text).map _ = _
  rw [RuleName.ofText?_text]
  rfl

/-- The keys of a mapping are all names of rules exactly if none of them is unknown. -/
theorem unknown_eq_nil_iff {es : List (Value × Value)} :
    ((es.map (·.1)).filter fun k => !RuleName.all.any fun r => (Value.str r.text).same k) = [] ↔
      ∀ e ∈ es, ∃ r : RuleName, e.1 = .str r.text := by
  simp only [List.filter_eq_nil_iff, List.forall_mem_map, Bool.not_eq_true', Bool.not_eq_false,
    List.any_eq_true, Value.same_str]
  refine forall₂_congr fun e _ => ?_
  exact ⟨fun ⟨r, _, h⟩ => ⟨r, h⟩, fun ⟨r, h⟩ => ⟨r, r.mem_all, h⟩⟩

/-- A value that is no mapping says nothing about the rules, and must count as false. -/
theorem rulesOf_of_ne_dict {v : Value} (h : ∀ es, v ≠ .dict es) : rulesOf v =
    if v.truthy then refuse "rules must be a mapping of rule name to settings" else .ok [] := by
  cases v with
  | dict es => exact absurd rfl (h es)
  | _ => rfl

/-- What a mapping of rules says about each of them. -/
theorem rulesOf_complete {es : List (Value × Value)} {rules : RuleName → RuleSettings}
    (hknown : ∀ e ∈ es, ∃ r : RuleName, e.1 = .str r.text)
    (hrules : ∀ r, ruleOf r ((Value.lookup (.str r.text) es).getD .none) = .ok (.ok (rules r))) :
    rulesOf (.dict es) = .ok (RuleName.all.map fun r => .ok (r, rules r)) := by
  -- No key is the name of no rule, so that reading comes to the rules one by one.
  have hunknown := List.isEmpty_iff.mpr (unknown_eq_nil_iff.mpr hknown)
  simp only [rulesOf, hunknown, ↓reduceIte, hrules]
  refine (Traversal.mapM_eq_ok_iff (g := fun r => Except.ok (r, rules r)) ?_).mpr
    ⟨fun _ _ => rfl, rfl⟩
  intro r _ c hc
  cases hc
  rfl

/-- The names of a list as they are read back. -/
def reread (l : NameList) : List String := Value.strippedNames ((p.lists l).map .str)

/-- The policy with other settings for its rules, as it is read back. -/
def reset (rules : RuleName → RuleSettings) : Policy :=
  { p with rules := rules, lists := p.reread }

theorem settingsAmong_all (rules : RuleName → RuleSettings) :
    settingsAmong (RuleName.all.map fun r => (r, rules r)) = rules := by
  funext r
  cases r <;> rfl

theorem namesAmong_all (names : NameList → List String) :
    namesAmong (NameList.all.map fun l => (l, names l)) = names := by
  funext l
  cases l <;> rfl

end Policy

end Grader
