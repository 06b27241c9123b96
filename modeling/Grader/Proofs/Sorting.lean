import Mathlib

/-! What a stable sort keeps: ties stay in their order, dropping items before or after the sort
gives the same list, and lists that follow one another are sorted one by one. -/

namespace Grader.Sorting

variable {α : Type} {le : α → α → Bool}

/-- Two splits of one list agree if a test holds for everything in front and for nothing behind. -/
theorem split_unique (q : α → Bool) {xs ys xs' ys' : List α} (h : xs ++ ys = xs' ++ ys')
    (hx : ∀ a ∈ xs, q a = true) (hy : ∀ a ∈ ys, q a = false)
    (hx' : ∀ a ∈ xs', q a = true) (hy' : ∀ a ∈ ys', q a = false) : xs = xs' ∧ ys = ys' := by
  have front (us vs : List α) (hu : ∀ a ∈ us, q a = true) (hv : ∀ a ∈ vs, q a = false) :
      (us ++ vs).filter q = us := by
    rw [List.filter_append, List.filter_eq_self.mpr hu,
      List.filter_eq_nil_iff.mpr (fun a ha => by simp [hv a ha]), List.append_nil]
  have hxs : xs = xs' := by
    rw [← front xs ys hx hy, h, front xs' ys' hx' hy']
  refine ⟨hxs, ?_⟩
  rw [hxs] at h
  exact List.append_cancel_left h

variable (trans : ∀ a b c : α, le a b → le b c → le a c)
  (total : ∀ a b : α, (le a b || le b a) = true)

include trans total

/-- Sorting puts an item in front of everything that it does not exceed, and behind the rest. -/
theorem mergeSort_cons_split (a : α) (l : List α) :
    ∃ xs ys, (a :: l).mergeSort le = xs ++ a :: ys ∧ l.mergeSort le = xs ++ ys ∧
      (∀ b ∈ xs, (!le a b) = true) ∧ ∀ b ∈ ys, (!le a b) = false := by
  obtain ⟨xs, ys, hs, hl, hx⟩ := List.mergeSort_cons trans total a l
  refine ⟨xs, ys, hs, hl, hx, ?_⟩
  intro b hb
  have hp := List.pairwise_mergeSort trans total (a :: l)
  rw [hs] at hp
  have hab := (List.pairwise_cons.mp (List.pairwise_append.mp hp).2.1).1 b hb
  simp [hab]

/-- Dropping items commutes with the sort. -/
theorem filter_mergeSort (p : α → Bool) (l : List α) :
    (l.mergeSort le).filter p = (l.filter p).mergeSort le := by
  induction l with
  | nil => simp
  | cons a l ih =>
    obtain ⟨xs, ys, hs, hl, hx, hy⟩ := mergeSort_cons_split trans total a l
    rw [hl, List.filter_append] at ih
    rw [hs, List.filter_append]
    by_cases ha : p a = true
    · -- The item splits the items that are kept where it splits all of them.
      obtain ⟨xs', ys', hs', hl', hx', hy'⟩ :=
        mergeSort_cons_split trans total a (l.filter p)
      rw [hl'] at ih
      have hsub (zs : List α) (v : Bool) (hz : ∀ b ∈ zs, (!le a b) = v) :
          ∀ b ∈ zs.filter p, (!le a b) = v :=
        fun b hb => hz b (List.mem_of_mem_filter hb)
      obtain ⟨rfl, rfl⟩ := split_unique (fun b => !le a b) ih
        (hsub xs true hx) (hsub ys false hy) hx' hy'
      rw [List.filter_cons_of_pos ha, List.filter_cons_of_pos ha, hs']
    · rw [List.filter_cons_of_neg ha, List.filter_cons_of_neg ha, ih]

/-- A relation that held along the list still holds between items that tie. -/
theorem pairwise_mergeSort_ties {R : α → α → Prop} {l : List α} (h : l.Pairwise R) :
    (l.mergeSort le).Pairwise (fun a b => le a b = true ∧ (le b a = true → R a b)) := by
  induction h with
  | nil => simp
  | @cons a l hal hl ih =>
    obtain ⟨xs, ys, hs, hm, hx, hy⟩ := mergeSort_cons_split trans total a l
    rw [hm] at ih
    rw [hs]
    obtain ⟨hxs, hys, hxy⟩ := List.pairwise_append.mp ih
    have hmem (b : α) (hb : b ∈ xs ++ ys) : b ∈ l := by
      rw [← hm] at hb
      exact List.mem_mergeSort.mp hb
    refine List.pairwise_append.mpr ⟨hxs, List.pairwise_cons.mpr ⟨?_, hys⟩, ?_⟩
    · -- Whatever the item ties with stands behind it, and it came first in the list.
      intro b hb
      have hab : le a b = true := by simpa using hy b hb
      exact ⟨hab, fun _ => hal b (hmem b (List.mem_append_right xs hb))⟩
    · intro b hb c hc
      rcases List.mem_cons.mp hc with rfl | hc
      · have hcb : le c b = false := by simpa using hx b hb
        have hbc : le b c = true := by simpa [hcb] using total c b
        exact ⟨hbc, fun hcb' => by simp [hcb] at hcb'⟩
      · exact hxy b hb c hc

/-- Two lists of which the first is nowhere behind the second are sorted one after the other. -/
theorem mergeSort_append {xs ys : List α} (h : ∀ a ∈ xs, ∀ b ∈ ys, le a b = true) :
    (xs ++ ys).mergeSort le = xs.mergeSort le ++ ys.mergeSort le := by
  induction xs with
  | nil => simp
  | cons a xs ih =>
    have htail : ∀ b ∈ xs, ∀ c ∈ ys, le b c = true :=
      fun b hb => h b (List.mem_cons_of_mem a hb)
    obtain ⟨front, back, hs, hl, hfront, hback⟩ := mergeSort_cons_split trans total a xs
    obtain ⟨us, vs, hs', hl', hus, hvs⟩ := mergeSort_cons_split trans total a (xs ++ ys)
    -- The item splits the longer list where it splits the shorter one, since all that is added
    -- stays behind the item.
    have hadded : ∀ c ∈ ys.mergeSort le, (!le a c) = false := by
      intro c hc
      rw [h a List.mem_cons_self c (List.mem_mergeSort.mp hc)]
      rfl
    have hbehind : ∀ c ∈ back ++ ys.mergeSort le, (!le a c) = false := by
      intro c hc
      rcases List.mem_append.mp hc with hc | hc
      · exact hback c hc
      · exact hadded c hc
    have hsplit : us ++ vs = front ++ (back ++ ys.mergeSort le) := by
      rw [← hl', ih htail, hl, List.append_assoc]
    obtain ⟨rfl, rfl⟩ := split_unique (fun b => !le a b) hsplit hus hvs hfront hbehind
    rw [List.cons_append, hs', hs, List.append_assoc, List.cons_append]

end Grader.Sorting
