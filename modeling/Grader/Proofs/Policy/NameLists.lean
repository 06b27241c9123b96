import Grader.Proofs.Policy.Composition
import Grader.Proofs.Policy.Document

/-! The lists of names in policies. Whatever a list of names is read from, its names are not empty
and have no blanks around them, unless they are the items of a set, which are taken as they are. -/

namespace Grader

namespace Text

/-- A text that is not empty and neither begins nor ends with a blank. -/
structure IsTight (s : String) : Prop where
  ne_empty : s ≠ ""
  front : ∀ c ∈ s.toList.head?, isBlank c = false
  back : ∀ c ∈ s.toList.getLast?, isBlank c = false

theorem dropWhile_eq_self_of_head {cs : List Char} :
    cs.dropWhile isBlank = cs ↔ ∀ c ∈ cs.head?, isBlank c = false := by
  cases cs with
  | nil => simp
  | cons c cs =>
    rw [List.dropWhile_eq_self_iff]
    simp

theorem rdropWhile_eq_self_of_last {cs : List Char} :
    cs.rdropWhile isBlank = cs ↔ ∀ c ∈ cs.getLast?, isBlank c = false := by
  rw [List.rdropWhile, List.reverse_eq_iff, dropWhile_eq_self_of_head, List.head?_reverse]

theorem strip_eq_self_iff {s : String} : strip s = s ↔
    s.toList.dropWhile isBlank = s.toList ∧ s.toList.rdropWhile isBlank = s.toList := by
  have hstrip : (strip s).toList = (s.toList.dropWhile isBlank).rdropWhile isBlank :=
    String.toList_ofList
  rw [← String.toList_inj, hstrip]
  constructor
  · intro h
    -- What is left is as long as the whole, so that nothing is removed on either side.
    have hback : ((s.toList.dropWhile isBlank).rdropWhile isBlank).length ≤
        (s.toList.dropWhile isBlank).length := (List.rdropWhile_prefix isBlank _).length_le
    rw [h] at hback
    have hfront : s.toList.dropWhile isBlank = s.toList :=
      (List.dropWhile_suffix isBlank).eq_of_length_le hback
    rw [hfront] at h
    exact ⟨hfront, h⟩
  · rintro ⟨hfront, hback⟩
    rw [hfront, hback]

theorem isTrimmed_iff {s : String} : isTrimmed s = true ↔ IsTight s := by
  have hempty : s.toList ≠ [] ↔ s ≠ "" := by simp
  unfold isTrimmed
  rw [Bool.and_eq_true, bne_iff_ne, hempty, beq_iff_eq, strip_eq_self_iff,
    dropWhile_eq_self_of_head, rdropWhile_eq_self_of_last]
  exact ⟨fun ⟨h, hfront, hback⟩ => ⟨h, hfront, hback⟩, fun h => ⟨h.ne_empty, h.front, h.back⟩⟩

end Text

namespace Value

/-- The items of a set are read one by one. -/
theorem map_readText_of_readNames_set {xs : List Value} {names : List String}
    (h : readNames (set xs) = .ok names) : xs.map readText = names.map .ok := by
  have hread : xs.mapIdx (fun i x => Checked.under (toString i) (readText x)) = names.map .ok :=
    Checked.all_eq_ok_iff.mp h
  have hlength : xs.length = names.length := by simpa using congrArg List.length hread
  refine List.ext_getElem (by simpa using hlength) fun i hi hi' => ?_
  have hat := List.getElem_of_eq hread (i := i) (by simpa using hi)
  simp only [List.getElem_mapIdx, List.getElem_map] at hat ⊢
  exact Checked.under_eq_ok_iff.mp hat

/-- What is read as names without being a set. -/
theorem isNames_of_readNames {v : Value} {names : List String} (h : readNames v = .ok names)
    (hset : ∀ xs, v ≠ set xs) : v.IsNames := by
  cases v with
  | none | str | list | tuple => trivial
  | set xs => exact absurd rfl (hset xs)
  | _ => cases h

end Value

namespace Policy

/-- The names of a policy as they come from a mapping: tight ones, and the items of sets. They are
tight throughout exactly if the items of the sets are. -/
structure TightensNames (es : List (Value × Value)) (p : Policy) : Prop where
  tight : ∀ l : NameList, (∀ xs, Value.lookup (.str l.text) es ≠ some (.set xs)) →
    ∀ s ∈ p.lists l, Text.IsTight s
  kept : ∀ (l : NameList) (xs : List Value), Value.lookup (.str l.text) es = some (.set xs) →
    xs.map Value.readText = (p.lists l).map .ok
  tight_iff : (∀ l, ∀ s ∈ p.lists l, Text.IsTight s) ↔
    ∀ (l : NameList) (xs : List Value), Value.lookup (.str l.text) es = some (.set xs) →
      ∀ x ∈ xs, ∀ s, Value.readText x = .ok s → Text.IsTight s

theorem isTrimmed_default (l : NameList) : ∀ s ∈ l.default, Text.isTrimmed s = true := by
  cases l <;> decide +kernel

section Read

variable {es : List (Value × Value)} {p : Policy} {l : NameList}

theorem ReadFrom.isTight (h : ReadFrom es p)
    (hset : ∀ xs, Value.lookup (.str l.text) es ≠ some (.set xs)) :
    ∀ s ∈ p.lists l, Text.IsTight s := by
  intro s hs
  rw [← Text.isTrimmed_iff]
  have hgives := h.lists l
  unfold Value.Gives at hgives
  split at hgives
  · rename_i v hv
    have hnames : v.IsNames := by
      refine Value.isNames_of_readNames hgives fun xs hxs => hset xs ?_
      rw [hv, hxs]
    exact Value.isTrimmed_of_readNames hnames hgives s hs
  · rw [hgives] at hs
    exact isTrimmed_default l s hs

theorem ReadFrom.map_readText (h : ReadFrom es p) {xs : List Value}
    (hset : Value.lookup (.str l.text) es = some (.set xs)) :
    xs.map Value.readText = (p.lists l).map .ok := by
  have hgives := h.lists l
  unfold Value.Gives at hgives
  rw [hset] at hgives
  exact Value.map_readText_of_readNames_set hgives

theorem ReadFrom.tightensNames (h : ReadFrom es p) : TightensNames es p := by
  refine ⟨fun l => h.isTight, fun l xs => h.map_readText, ?_, ?_⟩
  · intro htight l xs hset x hx s hs
    have hmem : Except.ok s ∈ (p.lists l).map (Except.ok : String → Checked String) := by
      rw [← h.map_readText hset, ← hs]
      exact List.mem_map_of_mem hx
    exact htight l s ((List.mem_map_of_injective fun _ _ => Except.ok.inj).mp hmem)
  · intro hsets l s hs
    -- A name of a list that is given as a set is one of the items of the set.
    by_cases hset : ∃ xs, Value.lookup (.str l.text) es = some (.set xs)
    · obtain ⟨xs, hxs⟩ := hset
      have hmem : Except.ok s ∈ xs.map Value.readText := by
        rw [h.map_readText hxs]
        exact List.mem_map_of_mem hs
      obtain ⟨x, hx, hread⟩ := List.mem_map.mp hmem
      exact hsets l xs hxs x hx s hread
    · exact h.isTight (not_exists.mp hset) s hs

end Read

/-- Whatever a policy is read from, a mapping or a document, its names are not empty and have no
blanks around them: those of every list that is not given as a set. The items of sets are names as
they are, and so the names are tight throughout exactly if these items are. -/
theorem names_of_accepted (p : Policy) :
    (∀ v, ofValue v = .ok p → ∃ es, v = .dict es ∧ TightensNames es p) ∧
    ∀ (fs : Files) (path : String), load fs path = .ok p →
      ∃ es, readMapping fs (fs.absolute path) = .ok es ∧ TightensNames (policyEntries es) p := by
  refine ⟨fun v h => ?_, fun fs path h => ?_⟩
  · cases v with
    | dict es => exact ⟨es, rfl, (ofValue_eq_ok_iff.mp h).tightensNames⟩
    | _ => cases h
  · cases hmapping : readMapping fs (fs.absolute path) with
    | error f =>
      rw [load_of_readMapping hmapping] at h
      cases h
    | ok es =>
      rw [load_of_readMapping hmapping] at h
      have hread : ofValue (.dict (policyEntries es)) = .ok p := Traversal.mapError_eq_ok_iff.mp h
      exact ⟨es, rfl, (ofValue_eq_ok_iff.mp hread).tightensNames⟩

/-- A list of two names with blanks around them, and a set of a name without any. -/
theorem names_of_accepted_mapping :
    let v : Value := .dict [(.str "forbidden_imports", .list [.str " os ", .str " "]),
      (.str "console_calls", .set [.str "print"])]
    ∃ p, ofValue v = .ok p ∧ p.lists .forbiddenImports = ["os"] ∧
      ∀ l, ∀ s ∈ p.lists l, Text.IsTight s := by
  intro v
  have hread : ∃ p, ofValue v = .ok p ∧ p.lists .forbiddenImports = ["os"] := ⟨_, rfl, rfl⟩
  obtain ⟨p, hp, hnames⟩ := hread
  obtain ⟨es, hes, htightens⟩ := (names_of_accepted p).1 v hp
  obtain rfl := (Value.dict.inj hes).symm
  refine ⟨p, hp, hnames, htightens.tight_iff.mpr ?_⟩
  intro l xs hxs x hx s hs
  have hnil (k : Value) : Value.lookup k [] = none := rfl
  have hset : xs = [.str "print"] := by
    cases l with
    | consoleCalls => simpa [Value.lookup_cons, NameList.text, eq_comm] using hxs
    | _ => simp [Value.lookup_cons, hnil, NameList.text] at hxs
  rw [hset, List.mem_singleton] at hx
  rw [hx] at hs
  cases hs
  exact Text.isTrimmed_iff.mp (by decide +kernel)

/-- A document that forbids a module in a set of names, with blanks around its name. The policy that
is read from it forbids a name with blanks. -/
theorem load_keeps_blanks_of_set :
    let document := "forbidden_imports: !!set \x7b' os ': null\x7d\n".toList
    let fs : Files := ⟨"/work", [(["p.yaml"], .file (document.map Char.toUInt8))]⟩
    ∃ p, load fs "p.yaml" = .ok p ∧ p.lists .forbiddenImports = [" os "] ∧
      ¬∀ l, ∀ s ∈ p.lists l, Text.IsTight s := by
  intro document fs
  have hholds : Holds fs "p.yaml" (.dict [(.str "forbidden_imports", .set [.str " os "])]) :=
    holds_of_ascii document (by simp [document]) (by decide +kernel) (by decide +kernel)
  have hread : ∃ p, load fs "p.yaml" = .ok p ∧ p.lists .forbiddenImports = [" os "] := by
    rw [load_of_dict hholds]
    exact ⟨_, rfl, rfl⟩
  obtain ⟨p, hp, hnames⟩ := hread
  refine ⟨p, hp, hnames, fun htight => ?_⟩
  have hos := htight .forbiddenImports " os " (by rw [hnames]; exact List.mem_cons_self)
  have hfront := hos.front ' ' (by decide +kernel)
  revert hfront
  decide

end Policy

end Grader
