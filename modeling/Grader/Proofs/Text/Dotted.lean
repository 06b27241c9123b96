import Mathlib
import Grader.Text.Dotted

/-!
Segments of dotted names. A name is its segments with dots between them, so that two names with the
same segments are equal, and one name lies within another exactly if it begins with its segments.
-/

namespace Grader.Text.Dotted

theorem components_eq_splitOn (cs : List Char) : components cs = cs.splitOn '.' := by
  induction cs with
  | nil => rfl
  | cons c cs ih =>
    rw [components, ih, List.splitOn_cons_eq_if_modifyHead]
    by_cases hc : c = '.'
    · simp [hc]
    · rw [if_neg hc, if_neg (by simpa using hc)]
      cases hcs : cs.splitOn '.' with
      | nil => exact absurd hcs (List.splitOn_ne_nil _ _)
      | cons first others => rfl

/-- What stands between the dots of a name, empty segments included. -/
def segments (name : String) : List String := (components name.toList).map String.ofList

variable {name root : String}

theorem segments_ne_nil (name : String) : segments name ≠ [] := by
  rw [segments, components_eq_splitOn, Ne, List.map_eq_nil_iff]
  exact List.splitOn_ne_nil _ _

theorem map_toList_segments (name : String) :
    (segments name).map String.toList = name.toList.splitOn '.' := by
  rw [segments, components_eq_splitOn, List.map_map]
  have hid : String.toList ∘ String.ofList = id := funext fun cs => String.toList_ofList
  rw [hid, List.map_id]

theorem intercalate_segments (name : String) : String.intercalate "." (segments name) = name := by
  rw [← String.toList_inj, String.toList_intercalate, map_toList_segments]
  exact List.intercalate_splitOn '.'

theorem segments_injective : Function.Injective segments := by
  intro a b h
  rw [← intercalate_segments a, h, intercalate_segments]

/-- A name without dots is its only segment. -/
theorem segments_of_not_mem (h : '.' ∉ name.toList) : segments name = [name] := by
  have hall : ∀ l ∈ [name.toList], '.' ∉ l := by simpa using h
  have hsplit := List.splitOn_intercalate '.' hall (by simp)
  rw [List.intercalate_singleton] at hsplit
  rw [segments, components_eq_splitOn, hsplit]
  simp

theorem segments_append_dot (front back : String) :
    segments (front ++ "." ++ back) = segments front ++ segments back := by
  have hlist : (front ++ "." ++ back).toList = front.toList ++ '.' :: back.toList := by simp
  have hsplit : (front.toList ++ '.' :: back.toList).splitOn '.' =
      front.toList.splitOn '.' ++ back.toList.splitOn '.' :=
    List.splitOnP_append_cons front.toList back.toList (beq_self_eq_true '.')
  simp only [segments, components_eq_splitOn, hlist, hsplit, List.map_append]

/-- Segments that are joined in two parts. -/
theorem intercalate_append {front back : List String} (hfront : front ≠ []) (hback : back ≠ []) :
    String.intercalate "." (front ++ back) =
      String.intercalate "." front ++ "." ++ String.intercalate "." back := by
  induction front with
  | nil => exact absurd rfl hfront
  | cons s front ih =>
    cases front with
    | nil =>
      obtain ⟨s', back, rfl⟩ := List.exists_cons_of_ne_nil hback
      simp
    | cons s' front =>
      rw [List.cons_append, List.cons_append, String.intercalate_cons_cons, ← List.cons_append,
        ih (by simp), String.intercalate_cons_cons]
      simp only [String.append_assoc]

/-- A name begins with the segments of another one if it is that name, or continues it behind a
dot. -/
theorem segments_prefix_iff :
    segments root <+: segments name ↔ name = root ∨ ∃ rest, name = root ++ "." ++ rest := by
  constructor
  · rintro ⟨more, hmore⟩
    by_cases hnil : more = []
    · rw [hnil, List.append_nil] at hmore
      exact .inl (segments_injective hmore.symm)
    · refine .inr ⟨String.intercalate "." more, ?_⟩
      rw [← intercalate_segments name, ← hmore, intercalate_append (segments_ne_nil root) hnil,
        intercalate_segments]
  · rintro (rfl | ⟨rest, rfl⟩)
    · exact List.prefix_rfl
    · rw [segments_append_dot]
      exact List.prefix_append _ _

/-- One name lies within another exactly if it begins with the segments of that name. -/
theorem isWithin_iff : isWithin name root = true ↔ segments root <+: segments name := by
  rw [segments_prefix_iff, isWithin, Bool.or_eq_true, beq_iff_eq, List.isPrefixOf_iff_prefix]
  refine or_congr_right ⟨?_, ?_⟩
  · rintro ⟨rest, hrest⟩
    refine ⟨String.ofList rest, ?_⟩
    rw [← String.toList_inj, ← hrest]
    simp
  · rintro ⟨rest, rfl⟩
    exact ⟨rest.toList, by simp⟩

/-- Whether a name begins with the segments of one of the roots. -/
def BeginsWithAny (name : String) (roots : List String) : Prop :=
  ∃ root ∈ roots, segments root <+: segments name

theorem isWithinAny_iff {roots : List String} :
    isWithinAny name roots = true ↔ BeginsWithAny name roots := by
  simp only [isWithinAny, List.any_eq_true, isWithin_iff, BeginsWithAny]

instance (name : String) (roots : List String) : Decidable (BeginsWithAny name roots) :=
  decidable_of_iff _ isWithinAny_iff

end Grader.Text.Dotted
