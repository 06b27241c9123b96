import Grader.Value.Text
import Mathlib

/-! The order of the entries of mappings. `Reordered` relates values that differ in nothing but this
order, in mappings at any depth. Sorting pairs of texts forgets their order and nothing else, and so
the form of a value in feedback does not depend on the order of entries. -/

namespace Grader.Value

/-- Values that are the same but for the order of the entries of mappings, at any depth. -/
inductive Reordered : Value → Value → Prop
  | same (v : Value) : Reordered v v
  | list {xs ys : List Value} (items : List.Forall₂ Reordered xs ys) :
    Reordered (list xs) (list ys)
  | tuple {xs ys : List Value} (items : List.Forall₂ Reordered xs ys) :
    Reordered (tuple xs) (tuple ys)
  | dict {xs zs ys : List (Value × Value)} (keys : xs.map (·.1) = zs.map (·.1))
    (values : List.Forall₂ Reordered (xs.map (·.2)) (zs.map (·.2))) (perm : zs.Perm ys) :
    Reordered (dict xs) (dict ys)

/-- What holds of one and the same value, and is passed on by lists, tuples and mappings, holds of
values that differ in the order of entries. -/
theorem Reordered.induct {P : Value → Value → Prop} (same : ∀ v, P v v)
    (list : ∀ xs ys, List.Forall₂ P xs ys → P (.list xs) (.list ys))
    (tuple : ∀ xs ys, List.Forall₂ P xs ys → P (.tuple xs) (.tuple ys))
    (dict : ∀ xs zs ys : List (Value × Value), xs.map (·.1) = zs.map (·.1) →
      List.Forall₂ P (xs.map (·.2)) (zs.map (·.2)) → zs.Perm ys → P (.dict xs) (.dict ys))
    {v w : Value} (h : Reordered v w) : P v w :=
  @Reordered.rec (fun v w _ => P v w) (fun xs ys _ => List.Forall₂ P xs ys) same
    (fun _ ih => list _ _ ih) (fun _ ih => tuple _ _ ih)
    (fun keys _ perm ih => dict _ _ _ keys ih perm) .nil (fun _ _ h hs => .cons h hs) v w h

theorem pairLe_iff {a b : String × String} : pairLe a b = true ↔ toLex a ≤ toLex b := by
  simp only [pairLe, Bool.or_eq_true, Bool.and_eq_true, beq_iff_eq, decide_eq_true_eq,
    Prod.Lex.le_iff, ofLex_toLex]

theorem sortPairs_perm (es : List (String × String)) : (sortPairs es).Perm es :=
  List.mergeSort_perm es pairLe

theorem pairwise_sortPairs (es : List (String × String)) :
    (sortPairs es).Pairwise fun a b => toLex a ≤ toLex b := by
  have htrans (a b c : String × String) (hab : pairLe a b = true) (hbc : pairLe b c = true) :
      pairLe a c = true :=
    pairLe_iff.mpr ((pairLe_iff.mp hab).trans (pairLe_iff.mp hbc))
  have htotal (a b : String × String) : (pairLe a b || pairLe b a) = true := by
    rw [Bool.or_eq_true, pairLe_iff, pairLe_iff]
    exact le_total _ _
  exact (List.pairwise_mergeSort htrans htotal es).imp pairLe_iff.mp

/-- Sorting forgets the order of pairs, and nothing else. -/
theorem sortPairs_eq_iff_perm {es fs : List (String × String)} :
    sortPairs es = sortPairs fs ↔ es.Perm fs := by
  constructor
  · intro h
    have hes := (sortPairs_perm es).symm
    rw [h] at hes
    exact hes.trans (sortPairs_perm fs)
  · intro h
    have hperm : (sortPairs es).Perm (sortPairs fs) :=
      ((sortPairs_perm es).trans h).trans (sortPairs_perm fs).symm
    -- Pairs that are not in front of each other are one pair, so that a sorted list has one order.
    exact hperm.eq_of_pairwise
      (fun a b _ _ hab hba => toLex.injective (le_antisymm hab hba))
      (pairwise_sortPairs es) (pairwise_sortPairs fs)

theorem map_eq_of_forall₂ {α β : Type} {f : α → β} {as bs : List α}
    (h : List.Forall₂ (fun a b => f a = f b) as bs) : as.map f = bs.map f := by
  rw [← List.forall₂_eq_eq_eq, List.forall₂_map_left_iff, List.forall₂_map_right_iff]
  exact h

theorem shownItems_eq (vs : List Value) : shownItems vs = vs.map shown := by
  induction vs with
  | nil => rfl
  | cons v vs ih => rw [shownItems, ih, List.map_cons]

def entryForms (f : Value → String) (e : Value × Value) : String × String := (f e.1, f e.2)

theorem map_entryForms (f : Value → String) (es : List (Value × Value)) :
    es.map (entryForms f) = ((es.map (·.1)).map f).zip ((es.map (·.2)).map f) := by
  rw [List.map_map, List.map_map, List.zip_map']
  rfl

theorem shownEntries_eq (es : List (Value × Value)) :
    shownEntries es = es.map (entryForms shown) := by
  induction es with
  | nil => rfl
  | cons e es ih => rw [shownEntries, ih, List.map_cons, entryForms]

theorem shownItems_eq_of_forall₂ {xs ys : List Value}
    (h : List.Forall₂ (fun v w => v.shown = w.shown) xs ys) : shownItems xs = shownItems ys := by
  rw [shownItems_eq, shownItems_eq, map_eq_of_forall₂ h]

/-- In the form of a mapping the entries stand in the order of their own forms. -/
theorem shown_dict (es : List (Value × Value)) : ∃ pairs : List (String × String),
    shown (.dict es) = braced (commas (pairs.map fun e => e.1 ++ ": " ++ e.2)) ∧
    pairs.Perm (es.map (entryForms shown)) ∧ pairs.Pairwise fun a b => toLex a ≤ toLex b := by
  refine ⟨sortPairs (shownEntries es), by rw [shown], ?_, pairwise_sortPairs _⟩
  rw [← shownEntries_eq]
  exact sortPairs_perm _

/-- The form of a value in feedback does not depend on the order in which mappings hold their
entries. -/
theorem shown_of_reordered (v w : Value) (h : Reordered v w) : v.shown = w.shown := by
  refine Reordered.induct (P := fun v w => v.shown = w.shown) (fun v => rfl) ?list ?tuple ?dict h
  case list =>
    intro xs ys items
    simp only [shown, shownItems_eq_of_forall₂ items]
  case tuple =>
    intro xs ys items
    simp only [shown, shownItems_eq_of_forall₂ items]
  case dict =>
    intro xs zs ys keys values perm
    -- The values are shown alike where they are, and then the sort forgets the order.
    have hvalues : shownEntries xs = shownEntries zs := by
      rw [shownEntries_eq, shownEntries_eq, map_entryForms, map_entryForms, keys,
        map_eq_of_forall₂ values]
    have horder : (shownEntries zs).Perm (shownEntries ys) := by
      rw [shownEntries_eq, shownEntries_eq]
      exact perm.map _
    have hsorted : sortPairs (shownEntries xs) = sortPairs (shownEntries ys) := by
      rw [hvalues]
      exact sortPairs_eq_iff_perm.mpr horder
    simp only [shown, hsorted]

/-- Two mappings, one of them inside a tuple, both turned around. The keys of the outer one are told
apart by a blank and by the mark that makes blanks visible, so that they have one form. -/
theorem shown_of_reordered_colliding :
    let inner : List (Value × Value) := [(.str "x", .int 1), (.tuple [.int 2], .bool true)]
    let v : Value :=
      .list [.dict [(.str "a b", .tuple [.dict inner, .none]), (.str "a⎵b", .str "c\t")]]
    let w : Value :=
      .list [.dict [(.str "a⎵b", .str "c\t"), (.str "a b", .tuple [.dict inner.reverse, .none])]]
    Reordered v w ∧ (Value.str "a b").shown = (Value.str "a⎵b").shown ∧ v.shown = w.shown := by
  intro inner v w
  have hinner : Reordered (.dict inner) (.dict inner.reverse) :=
    .dict rfl (.cons (.same _) (.cons (.same _) .nil)) (List.reverse_perm inner).symm
  have hvalues : List.Forall₂ Reordered [.tuple [.dict inner, .none], .str "c\t"]
      [.tuple [.dict inner.reverse, .none], .str "c\t"] :=
    .cons (.tuple (.cons hinner (.cons (.same _) .nil))) (.cons (.same _) .nil)
  have hreordered : Reordered v w := by
    refine .list (.cons ?_ .nil)
    exact @Reordered.dict _
      [(.str "a b", .tuple [.dict inner.reverse, .none]), (.str "a⎵b", .str "c\t")] _
      rfl hvalues (List.Perm.swap _ _ _)
  exact ⟨hreordered, by decide +kernel, shown_of_reordered v w hreordered⟩

end Grader.Value
