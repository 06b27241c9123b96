import Mathlib
import Grader.Source.Node
import Grader.Proofs.Source.Tree

/-!
Nodes above a node. Of the nodes above a node that have a property one is the nearest, and climbing
from the node finds it first. The nearest node that opens a scope is the scope of the node.
-/

namespace Grader.Source

/-- Whether the node at `q` lies above the one at `p`. -/
def IsAbove (q p : List Nat) : Prop := q <:+ p ∧ q ≠ p

instance (q p : List Nat) : Decidable (IsAbove q p) := inferInstanceAs (Decidable (_ ∧ _))

section Above

variable {p q s : List Nat} {i : Nat}

theorem isAbove_cons : IsAbove q (i :: p) ↔ q <:+ p := by
  constructor
  · rintro ⟨hsuf, hne⟩
    exact (List.suffix_cons_iff.mp hsuf).resolve_left hne
  · intro hsuf
    refine ⟨hsuf.trans (List.suffix_cons i p), ?_⟩
    rintro rfl
    have hlen := hsuf.length_le
    simp at hlen

theorem not_isAbove_nil : ¬ IsAbove q [] := by
  rintro ⟨hsuf, hne⟩
  exact hne (List.suffix_nil.mp hsuf)

theorem IsAbove.length_lt (h : IsAbove q p) : q.length < p.length :=
  lt_of_le_of_ne h.1.length_le fun hlen => h.2 (h.1.eq_of_length hlen)

theorem IsAbove.of_suffix (hs : IsAbove s q) (hq : q <:+ p) : IsAbove s p := by
  refine ⟨hs.1.trans hq, ?_⟩
  rintro rfl
  have hlt := hs.length_lt.trans_le hq.length_le
  exact hlt.ne rfl

theorem IsAbove.trans (hs : IsAbove s q) (hq : IsAbove q p) : IsAbove s p := hs.of_suffix hq.1

theorem IsAbove.asymm (h : IsAbove q p) : ¬ IsAbove p q := by
  intro h'
  have hlt := h.length_lt.trans h'.length_lt
  exact hlt.ne rfl

end Above

/-- The node at `s` is the nearest one above the node at `p` that has a property. -/
structure NearestAbove (P : List Nat → Prop) (p s : List Nat) : Prop where
  above : IsAbove s p
  holds : P s
  deepest : ∀ q, IsAbove q p → P q → q <:+ s

section Nearest

variable {P Q : List Nat → Prop} {p s s' : List Nat} {i : Nat}

theorem NearestAbove.unique (h : NearestAbove P p s) (h' : NearestAbove P p s') : s = s' := by
  have hle := h'.deepest s h.above h.holds
  have hge := h.deepest s' h'.above h'.holds
  exact hle.eq_of_length (le_antisymm hle.length_le hge.length_le)

theorem not_nearestAbove_nil : ¬ NearestAbove P [] s := fun h => not_isAbove_nil h.above

/-- The parent is the nearest node above if it has the property. -/
theorem nearestAbove_cons_of_pos (h : P p) : NearestAbove P (i :: p) s ↔ s = p := by
  constructor
  · intro hs
    have hle := isAbove_cons.mp hs.above
    have hge := hs.deepest p (isAbove_cons.mpr (List.suffix_refl p)) h
    exact hle.eq_of_length (le_antisymm hle.length_le hge.length_le)
  · rintro rfl
    exact ⟨isAbove_cons.mpr (List.suffix_refl s), h, fun q hq _ => isAbove_cons.mp hq⟩

/-- If the parent does not have the property, the nearest node above that has it is the one above
the parent. -/
theorem nearestAbove_cons_of_neg (h : ¬ P p) :
    NearestAbove P (i :: p) s ↔ NearestAbove P p s := by
  have hne {q : List Nat} (hq : P q) : q ≠ p := by
    rintro rfl
    exact h hq
  constructor
  · intro hs
    refine ⟨⟨isAbove_cons.mp hs.above, hne hs.holds⟩, hs.holds, ?_⟩
    intro q hq hP
    exact hs.deepest q (isAbove_cons.mpr hq.1) hP
  · intro hs
    refine ⟨isAbove_cons.mpr hs.above.1, hs.holds, ?_⟩
    intro q hq hP
    exact hs.deepest q ⟨isAbove_cons.mp hq, hne hP⟩ hP

/-- If some node above has the property, then one of them is the nearest. -/
theorem exists_nearestAbove {q : List Nat} (hq : IsAbove q p) (hP : P q) :
    ∃ s, NearestAbove P p s := by
  induction p with
  | nil => exact absurd hq not_isAbove_nil
  | cons i p ih =>
    by_cases hp : P p
    · exact ⟨p, (nearestAbove_cons_of_pos hp).mpr rfl⟩
    · have habove : IsAbove q p := by
        refine ⟨isAbove_cons.mp hq, ?_⟩
        rintro rfl
        exact hp hP
      obtain ⟨s, hs⟩ := ih habove
      exact ⟨s, (nearestAbove_cons_of_neg hp).mpr hs⟩

end Nearest

namespace Tree

/-- Whether the node at a path opens a scope. -/
def OpensScope (t : Tree) (path : List Nat) : Prop :=
  ∃ u, t.at? path = some u ∧ u.label.isScope = true

/-- The node at `s` is the scope of the one at `p`: the nearest node above it that opens one. -/
def NearestScope (t : Tree) (p s : List Nat) : Prop := NearestAbove t.OpensScope p s

variable {t u v : Tree} {p s : List Nat}

theorem opensScope_iff (h : t.at? p = some u) : t.OpensScope p ↔ u.label.isScope = true := by
  constructor
  · rintro ⟨w, hw, hscope⟩
    rwa [Option.some.inj (h.symm.trans hw)]
  · intro hscope
    exact ⟨u, h, hscope⟩

/-- Climbing from a node, the first scope that is met is the nearest one. -/
theorem scopePathIn_above (h : t.at? p = some u) :
    Node.scopePathIn (t.above p) p = some s ↔ t.NearestScope p s := by
  induction p generalizing u with
  | nil => exact iff_of_false (by simp [above, Node.scopePathIn]) not_nearestAbove_nil
  | cons i p ih =>
    obtain ⟨parent, hparent, -⟩ := at?_cons_eq_some.mp h
    rw [above_cons hparent, Node.scopePathIn, NearestScope]
    split
    case isTrue hscope =>
      rw [nearestAbove_cons_of_pos ((opensScope_iff hparent).mpr hscope), Option.some.injEq]
      exact eq_comm
    case isFalse hscope =>
      rw [nearestAbove_cons_of_neg fun hopens => hscope ((opensScope_iff hparent).mp hopens)]
      exact ih hparent

theorem scopeIn_above (h : t.at? p = some u) :
    scopeIn (t.above p) = some v ↔ ∃ s, t.NearestScope p s ∧ t.at? s = some v := by
  induction p generalizing u with
  | nil =>
    refine iff_of_false (by simp [above, scopeIn]) ?_
    rintro ⟨s, hs, -⟩
    exact not_nearestAbove_nil hs
  | cons i p ih =>
    obtain ⟨parent, hparent, -⟩ := at?_cons_eq_some.mp h
    rw [above_cons hparent, scopeIn]
    simp only [NearestScope]
    split
    case isTrue hscope =>
      have hopens := (opensScope_iff hparent).mpr hscope
      simp only [nearestAbove_cons_of_pos hopens, exists_eq_left, hparent]
    case isFalse hscope =>
      have hcloses : ¬ t.OpensScope p := fun hopens => hscope ((opensScope_iff hparent).mp hopens)
      simp only [nearestAbove_cons_of_neg hcloses]
      exact ih hparent

end Tree

end Grader.Source
