import Grader.Proofs.Value.Order
import Grader.Proofs.Value.Readability

/-! Agreement of values. It forgets the order of the entries of the values themselves, and of no
mapping within them: there the quoted forms are compared, which keep the order. -/

namespace Grader.Value

open Text (IsClosed)

/-- One and the same value, or mappings that differ in the order of their own entries alone. -/
def SameAtTop (v w : Value) : Prop :=
  v = w ∨ ∃ xs ys : List (Value × Value), v = dict xs ∧ w = dict ys ∧ xs.Perm ys

/-- No two keys of the value have one text. -/
def TellsKeys (v : Value) : Prop := ∀ es, v = dict es → ((es.map (·.1)).map text).Nodup

theorem agrees_dict_iff {xs ys : List (Value × Value)} :
    agrees (dict xs) (dict ys) = true ↔
      (xs.map (entryForms text)).Perm (ys.map (entryForms text)) := by
  rw [agrees, beq_iff_eq]
  exact sortPairs_eq_iff_perm

theorem agrees_of_sameAtTop {v w : Value} (h : SameAtTop v w) : agrees v w = true := by
  rcases h with rfl | ⟨xs, ys, rfl, rfl, hperm⟩
  · unfold agrees
    split <;> exact beq_self_eq_true _
  · exact agrees_dict_iff.mpr (hperm.map (entryForms text))

theorem Reordered.isData {v w : Value} (h : Reordered v w) : v.IsData → w.IsData := by
  have hitems (xs ys : List Value) (h : List.Forall₂ (fun v w => v.IsData → w.IsData) xs ys)
      (hxs : ∀ x ∈ xs, x.IsData) : ∀ y ∈ ys, y.IsData := by
    induction h with
    | nil => exact List.forall_mem_nil _
    | cons hxy _ ih =>
      obtain ⟨hx, hxs⟩ := List.forall_mem_cons.mp hxs
      exact List.forall_mem_cons.mpr ⟨hxy hx, ih hxs⟩
  refine Reordered.induct (P := fun v w => v.IsData → w.IsData) (fun _ h => h) ?list ?tuple ?dict h
  case list =>
    intro xs ys items hdata
    exact .list (hitems xs ys items (isData_list_iff.mp hdata))
  case tuple =>
    intro xs ys items hdata
    exact .tuple (hitems xs ys items (isData_tuple_iff.mp hdata))
  case dict =>
    intro xs zs ys keys values perm hdata
    obtain ⟨hkeys, hvalues, hapart⟩ := isData_dict_iff.mp hdata
    have hzvalues : ∀ v ∈ zs.map (·.2), v.IsData := hitems _ _ values hvalues
    rw [keys] at hkeys hapart
    exact .dict (fun k hk => hkeys k ((perm.map _).mem_iff.mpr hk))
      (fun v hv => hzvalues v ((perm.map _).mem_iff.mpr hv)) (((perm.map _).map _).nodup hapart)

section Forms

variable {f : Value → String}

/-- The forms of the two values, which are data, are equal only if the values are. -/
def IsToldBy (f : Value → String) (v w : Value) : Prop := v.IsData → w.IsData → f v = f w → v = w

theorem eq_of_forall₂ {xs ys : List Value} (h : List.Forall₂ (IsToldBy f) xs ys)
    (hxs : ∀ x ∈ xs, x.IsData) (hys : ∀ y ∈ ys, y.IsData) (hmap : xs.map f = ys.map f) :
    xs = ys := by
  induction h with
  | nil => rfl
  | cons hxy _ ih =>
    obtain ⟨hx, hxs⟩ := List.forall_mem_cons.mp hxs
    obtain ⟨hy, hys⟩ := List.forall_mem_cons.mp hys
    obtain ⟨hhead, htail⟩ := List.cons_eq_cons.mp hmap
    rw [hxy hx hy hhead, ih hxs hys htail]

/-- What differs in order only is in one order, if keys of its own for every item are. -/
theorem eq_of_perm_of_map_eq {α β : Type} {k : α → β} {xs ys : List α} (hperm : xs.Perm ys)
    (hkeys : (xs.map k).Nodup) (hmap : xs.map k = ys.map k) : xs = ys := by
  refine List.ext_getElem hperm.length_eq fun i hi hi' => ?_
  have hkey : k xs[i] = k ys[i] := by
    have hat := List.getElem_of_eq hmap (i := i) (by simpa using hi)
    simpa using hat
  have hmem : ys[i] ∈ xs := hperm.mem_iff.mpr (List.getElem_mem hi')
  exact List.inj_on_of_nodup_map hkeys (List.getElem_mem hi) hmem hkey

/-- Entries with the same keys, in one order, are the same if the forms of entries are. -/
theorem eq_of_entryForms_eq {xs zs : List (Value × Value)} (keys : xs.map (·.1) = zs.map (·.1))
    (values : List.Forall₂ (IsToldBy f) (xs.map (·.2)) (zs.map (·.2)))
    (hxs : ∀ v ∈ xs.map (·.2), v.IsData) (hzs : ∀ v ∈ zs.map (·.2), v.IsData)
    (hforms : xs.map (entryForms f) = zs.map (entryForms f)) : xs = zs := by
  have hvalues : xs.map (·.2) = zs.map (·.2) := by
    refine eq_of_forall₂ values hxs hzs ?_
    simpa [entryForms, Function.comp_def] using congrArg (List.map Prod.snd) hforms
  rw [List.zip_of_prod keys hvalues, ← List.zip_of_prod rfl rfl]

end Forms

theorem isClosed_of_mem_map_quoted {xs : List Value} (h : ∀ x ∈ xs, x.IsData) :
    ∀ t ∈ xs.map quoted, IsClosed t.toList :=
  List.forall_mem_map.mpr fun x hx => isClosed_quoted (h x hx)

theorem isClosed_of_mem_map_entryForms {es : List (Value × Value)}
    (hkeys : ∀ k ∈ es.map (·.1), k.IsData) (hvalues : ∀ v ∈ es.map (·.2), v.IsData) :
    ∀ e ∈ es.map (entryForms quoted), IsClosed e.1.toList ∧ IsClosed e.2.toList :=
  List.forall_mem_map.mpr fun _ he => ⟨isClosed_quoted (hkeys _ (List.mem_map_of_mem he)),
    isClosed_quoted (hvalues _ (List.mem_map_of_mem he))⟩

/-- The quoted form tells data from what differs in the order of entries. -/
theorem Reordered.isToldBy_quoted {v w : Value} (h : Reordered v w) : IsToldBy quoted v w := by
  refine Reordered.induct (P := IsToldBy quoted) (fun _ _ _ _ => rfl) ?list ?tuple ?dict h
  case list =>
    intro xs ys items hdata hdata' hquoted
    have hxs := isData_list_iff.mp hdata
    have hys := isData_list_iff.mp hdata'
    have hcommas : commas (xs.map quoted) = commas (ys.map quoted) := by
      simpa [quoted, quotedItems_eq] using hquoted
    have hmap : xs.map quoted = ys.map quoted :=
      commas_inj_of_isClosed (by simpa using items.length_eq) (isClosed_of_mem_map_quoted hxs)
        (isClosed_of_mem_map_quoted hys) hcommas
    rw [eq_of_forall₂ items hxs hys hmap]
  case tuple =>
    intro xs ys items hdata hdata' hquoted
    have hxs := isData_tuple_iff.mp hdata
    have hys := isData_tuple_iff.mp hdata'
    have htexts : tupleText (xs.map quoted) = tupleText (ys.map quoted) := by
      simpa [quoted, quotedItems_eq] using hquoted
    have hmap : xs.map quoted = ys.map quoted :=
      tupleText_inj (by simpa using items.length_eq) (isClosed_of_mem_map_quoted hxs)
        (isClosed_of_mem_map_quoted hys) htexts
    rw [eq_of_forall₂ items hxs hys hmap]
  case dict =>
    intro xs zs ys keys values perm hdata hdata' hquoted
    obtain ⟨hxkeys, hxvalues, hapart⟩ := isData_dict_iff.mp hdata
    obtain ⟨hykeys, hyvalues, -⟩ := isData_dict_iff.mp hdata'
    have hlength : xs.length = zs.length := by simpa using congrArg List.length keys
    have hcommas : commas ((xs.map (entryForms quoted)).map entryText) =
        commas ((ys.map (entryForms quoted)).map entryText) := by
      simpa [quoted, quotedEntries_eq, braced] using hquoted
    have hforms : xs.map (entryForms quoted) = ys.map (entryForms quoted) :=
      commas_entryText_inj (by simpa using hlength.trans perm.length_eq)
        (isClosed_of_mem_map_entryForms hxkeys hxvalues)
        (isClosed_of_mem_map_entryForms hykeys hyvalues) hcommas
    have hkeyforms : (xs.map (·.1)).map quoted = (ys.map (·.1)).map quoted := by
      simpa [entryForms, Function.comp_def] using congrArg (List.map Prod.fst) hforms
    rw [keys] at hkeyforms hapart
    -- The keys stand in one order, and each of them has one place in it.
    obtain rfl : zs = ys := by
      refine eq_of_perm_of_map_eq (k := fun e => e.1.quoted) perm ?_ ?_
      · simpa [Function.comp_def] using hapart
      · simpa [Function.comp_def] using hkeyforms
    rw [eq_of_entryForms_eq keys values hxvalues hyvalues hforms]

theorem Reordered.isToldBy_text {v w : Value} (h : Reordered v w) : IsToldBy text v w := by
  -- A text on its own is not quoted, but it has no entries either.
  cases h with
  | same => exact fun _ _ _ => rfl
  | list items => exact (Reordered.list items).isToldBy_quoted
  | tuple items => exact (Reordered.tuple items).isToldBy_quoted
  | dict keys values perm => exact (Reordered.dict keys values perm).isToldBy_quoted

theorem perm_of_agrees {xs ys : List (Value × Value)} (h : Reordered (dict xs) (dict ys))
    (hdata : (dict xs).IsData) (hkeys : ((xs.map (·.1)).map text).Nodup)
    (hagrees : agrees (dict xs) (dict ys) = true) : xs.Perm ys := by
  have hdata' := h.isData hdata
  cases h with
  | same => exact .refl _
  | @dict _ zs _ keys values perm =>
    obtain ⟨-, hxvalues, -⟩ := isData_dict_iff.mp hdata
    obtain ⟨-, hyvalues, -⟩ := isData_dict_iff.mp hdata'
    have hzvalues : ∀ v ∈ zs.map (·.2), v.IsData :=
      fun v hv => hyvalues v ((perm.map _).mem_iff.mp hv)
    have htold : List.Forall₂ (IsToldBy text) (xs.map (·.2)) (zs.map (·.2)) :=
      values.imp fun _ _ h => h.isToldBy_text
    have hforms : (xs.map (entryForms text)).Perm (zs.map (entryForms text)) :=
      (agrees_dict_iff.mp hagrees).trans (perm.symm.map (entryForms text))
    -- The keys stand in the order of `xs` in `zs` too, and so the entries do.
    have hsame : xs.map (entryForms text) = zs.map (entryForms text) := by
      refine eq_of_perm_of_map_eq (k := Prod.fst) hforms ?_ ?_
      · simpa [entryForms, Function.comp_def] using hkeys
      · simpa [entryForms, Function.comp_def] using congrArg (List.map text) keys
    rw [eq_of_entryForms_eq keys htold hxvalues hzvalues hsame]
    exact perm

/-- Values agree that differ in the order of their own entries. Where data differ in the order of
entries at any depth, there is no other agreement: with entries turned around in a mapping within
them, they do not agree. -/
theorem agrees_iff_sameAtTop (v w : Value) :
    (SameAtTop v w → agrees v w = true) ∧
    (Reordered v w → v.IsData → v.TellsKeys → (agrees v w = true ↔ SameAtTop v w)) := by
  refine ⟨agrees_of_sameAtTop, fun h hdata hkeys => ⟨fun hagrees => ?_, agrees_of_sameAtTop⟩⟩
  have htold (htext : v.text = w.text) : v = w := h.isToldBy_text hdata (h.isData hdata) htext
  cases h with
  | same => exact .inl rfl
  | list => exact .inl (htold (beq_iff_eq.mp hagrees))
  | tuple => exact .inl (htold (beq_iff_eq.mp hagrees))
  | dict keys values perm =>
    exact .inr ⟨_, _, rfl, rfl,
      perm_of_agrees (.dict keys values perm) hdata (hkeys _ rfl) hagrees⟩

/-- A mapping whose own entries are turned around, and a list of mappings one of which is. -/
theorem agrees_iff_sameAtTop_nested :
    let inner : List (Value × Value) := [(.str "a", .int 1), (.str "b", .int 2)]
    agrees (.dict [(.str "x", .dict inner), (.str "y", .none)])
      (.dict [(.str "y", .none), (.str "x", .dict inner)]) = true ∧
    (Value.list [.dict inner, .none]).IsData ∧
    agrees (.list [.dict inner, .none]) (.list [.dict inner.reverse, .none]) = false := by
  intro inner
  have hperm : [((.str "x" : Value), Value.dict inner), (.str "y", .none)].Perm
      [(.str "y", .none), (.str "x", .dict inner)] := List.Perm.swap _ _ _
  have hreordered :
      Reordered (.list [.dict inner, .none]) (.list [.dict inner.reverse, .none]) := by
    refine .list (.cons ?_ (.cons (.same _) .nil))
    exact .dict rfl (.cons (.same _) (.cons (.same _) .nil)) (List.reverse_perm inner).symm
  have hdata : (Value.list [.dict inner, .none]).IsData := by
    have hinner : (Value.dict inner).IsData :=
      .dict (by simp [inner, IsData.str]) (by simp [inner, IsData.int]) (by decide +kernel)
    exact .list (by simp [hinner, IsData.none])
  refine ⟨(agrees_iff_sameAtTop _ _).1 (.inr ⟨_, _, rfl, rfl, hperm⟩), hdata, ?_⟩
  rw [Bool.eq_false_iff, ne_eq,
    (agrees_iff_sameAtTop _ _).2 hreordered hdata fun es h => by cases h]
  rintro (h | ⟨xs, ys, h, -⟩)
  · simp [inner] at h
  · cases h

/-- Two lists of one mapping, which is turned around in one of them, do not agree. -/
theorem agrees_nested_reordered :
    let v : Value := .list [.dict [(.str "a", .int 1), (.str "b", .int 2)]]
    let w : Value := .list [.dict [(.str "b", .int 2), (.str "a", .int 1)]]
    Reordered v w ∧ v.IsData ∧ agrees v w = false := by
  intro v w
  refine ⟨.list (.cons ?_ .nil), .list ?_, by decide +kernel⟩
  · exact .dict rfl (.cons (.same _) (.cons (.same _) .nil)) (List.Perm.swap _ _ _)
  · intro x hx
    rw [List.mem_singleton.mp hx]
    exact .dict (by simp [IsData.str]) (by simp [IsData.int]) (by decide +kernel)

end Grader.Value
