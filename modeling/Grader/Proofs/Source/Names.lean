import Mathlib
import Grader.Source.Node
import Grader.Text.Dotted
import Grader.Proofs.Source.Tree

/-!
Dotted names. A chain of attributes on a name spells one dotted name, and no other expression spells
any. The last segment of a name stands behind its last dot.
-/

namespace Grader

namespace Text.Dotted

/-- The last segment of a name: all of a name without a dot, or else what stands behind the last
one. -/
inductive IsLastSegment : String → String → Prop
  | whole {s : String} : '.' ∉ s.toList → IsLastSegment s s
  | behind {front s : String} : '.' ∉ s.toList → IsLastSegment (front ++ "." ++ s) s

variable {cs : List Char} {name s : String}

theorem forall_mem_reverse_ne_dot (h : '.' ∉ cs) : ∀ c ∈ cs.reverse, (c != '.') = true := by
  intro c hc
  rw [bne_iff_ne]
  rintro rfl
  exact h (List.mem_reverse.mp hc)

theorem lastOf_of_not_mem (h : '.' ∉ cs) : lastOf cs = cs := by
  rw [lastOf, List.takeWhile_eq_self_iff.mpr (forall_mem_reverse_ne_dot h), List.reverse_reverse]

theorem lastOf_append_dot (front : List Char) (h : '.' ∉ cs) :
    lastOf (front ++ '.' :: cs) = cs := by
  have hreverse : (front ++ '.' :: cs).reverse = cs.reverse ++ '.' :: front.reverse := by simp
  rw [lastOf, hreverse, List.takeWhile_append_of_pos (forall_mem_reverse_ne_dot h),
    List.takeWhile_cons_of_neg (by simp), List.append_nil, List.reverse_reverse]

theorem IsLastSegment.eq (h : IsLastSegment name s) : lastSegment name = s := by
  cases h with
  | whole h => rw [lastSegment, lastOf_of_not_mem h, String.ofList_toList]
  | behind h =>
    rw [lastSegment, String.toList_append, String.toList_append, List.append_assoc]
    exact (congrArg String.ofList (lastOf_append_dot _ h)).trans String.ofList_toList

/-- Every name has a last segment. -/
theorem exists_isLastSegment (name : String) : ∃ s, IsLastSegment name s := by
  by_cases h : '.' ∈ name.toList
  · -- The last dot is the first one from behind.
    obtain ⟨back, front, hreverse, hback⟩ :=
      List.eq_append_cons_of_mem (List.mem_reverse.mpr h)
    have hname : name = String.ofList front.reverse ++ "." ++ String.ofList back.reverse := by
      rw [← String.toList_inj]
      simpa using congrArg List.reverse hreverse
    rw [hname]
    exact ⟨_, .behind (by simpa using hback)⟩
  · exact ⟨name, .whole h⟩

theorem lastSegment_eq_iff : lastSegment name = s ↔ IsLastSegment name s := by
  refine ⟨?_, IsLastSegment.eq⟩
  rintro rfl
  obtain ⟨s, hs⟩ := exists_isLastSegment name
  exact hs.eq ▸ hs

end Text.Dotted

namespace Source

/-- A tree is a chain of attributes on a name, and this is the dotted name that it spells. An
attribute of an empty name, which no text has, spells nothing. -/
inductive Tree.Spells : Tree → String → Prop
  | name {t : Tree} {id : String} : t.label = .name id → Spells t id
  | member {t c : Tree} {attr base : String} : t.label = .member attr →
      t.child? .value = some c → Spells c base → base ≠ "" → Spells t (base ++ "." ++ attr)

theorem dottedValue_eq (cs : List Tree) :
    dottedValue cs = (cs.find? (·.field == .value)).bind dottedName := by
  induction cs with
  | nil => rfl
  | cons c cs ih =>
    rw [dottedValue, List.find?_cons]
    by_cases hfield : c.field = .value
    · simp [hfield]
    · rw [if_neg hfield, beq_eq_false_iff_ne.mpr hfield]
      exact ih

/-- What an attribute is called by: the name of its value with the attribute behind it. -/
theorem dottedName_member_eq_some_iff {f : Field} {attr s : String} {start : Option Location}
    {cs : List Tree} : dottedName (.node f (.member attr) start cs) = some s ↔
      ∃ c base, cs.find? (·.field == .value) = some c ∧ dottedName c = some base ∧ base ≠ "" ∧
        s = base ++ "." ++ attr := by
  rw [dottedName, dottedValue_eq]
  cases hc : cs.find? (·.field == .value) with
  | none => simp
  | some c =>
    cases hbase : dottedName c with
    | none => simp [hbase]
    | some base => by_cases hempty : base = "" <;> simp [hbase, hempty, eq_comm]

/-- The dotted name of a tree is what the tree spells. -/
theorem dottedName_eq_some_iff {t : Tree} {s : String} : dottedName t = some s ↔ t.Spells s := by
  induction t using Tree.induct generalizing s with
  | node f l start cs ih =>
    cases l
    case name id =>
      rw [dottedName, Option.some.injEq]
      constructor
      · rintro rfl
        exact .name rfl
      · rintro (hl | hl)
        · exact Label.name.inj hl
        · cases hl
    case member attr =>
      rw [dottedName_member_eq_some_iff]
      constructor
      · rintro ⟨c, base, hc, hbase, hne, rfl⟩
        exact .member rfl hc ((ih c (List.mem_of_find?_eq_some hc)).mp hbase) hne
      · rintro (hl | ⟨hl, hc, hbase, hne⟩)
        · cases hl
        · obtain rfl := Label.member.inj hl
          exact ⟨_, _, hc, (ih _ (List.mem_of_find?_eq_some hc)).mpr hbase, hne, rfl⟩
    all_goals
      refine iff_of_false (fun h => by cases h) ?_
      rintro (hl | ⟨hl, -⟩) <;> cases hl

end Source

end Grader
