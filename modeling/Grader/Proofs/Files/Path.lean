import Grader.Files.Path
import Mathlib

/-! Paths that are put together from components have these components, and so a path has the same
ones as its normal form. -/

namespace Grader.Path

theorem splitSlashes_eq_splitOn (cs : List Char) : splitSlashes cs = cs.splitOn '/' := by
  induction cs with
  | nil => rfl
  | cons c cs ih =>
    rw [splitSlashes, ih, List.splitOn_cons_eq_if_modifyHead]
    by_cases hc : c = '/'
    · simp [hc]
    · rw [if_neg hc, if_neg (by simpa using hc)]
      cases hcs : cs.splitOn '/' with
      | nil => exact absurd hcs (List.splitOn_ne_nil _ _)
      | cons first others => rfl

theorem slash_notMem_of_mem_splitSlashes {cs piece : List Char} (h : piece ∈ splitSlashes cs) :
    '/' ∉ piece := by
  fun_induction splitSlashes cs generalizing piece with
  | case1 => simp_all
  | case2 rest ih =>
    rcases List.mem_cons.mp h with rfl | h
    · exact List.not_mem_nil
    · exact ih h
  | case3 c rest hc hrest ih =>
    rw [List.mem_singleton.mp h]
    simpa using Ne.symm hc
  | case4 c rest hc first others hrest ih =>
    rw [hrest] at ih
    rcases List.mem_cons.mp h with rfl | h
    · have hfirst := ih List.mem_cons_self
      simp [Ne.symm hc, hfirst]
    · exact ih (List.mem_cons_of_mem _ h)

/-- A component of a path. -/
structure IsComponent (c : String) : Prop where
  ne_empty : c ≠ ""
  ne_dot : c ≠ "."
  slash_notMem : '/' ∉ c.toList

theorem isComponent_of_mem {path c : String} (h : c ∈ components path) : IsComponent c := by
  obtain ⟨hmem, hkept⟩ := List.mem_filter.mp h
  obtain ⟨piece, hpiece, rfl⟩ := List.mem_map.mp hmem
  simp only [Bool.and_eq_true, bne_iff_ne] at hkept
  refine ⟨hkept.1, hkept.2, ?_⟩
  rw [String.toList_ofList]
  exact slash_notMem_of_mem_splitSlashes hpiece

theorem components_eq (path : String) : components path =
    ((path.toList.splitOn '/').map String.ofList).filter fun c => c != "" && c != "." := by
  unfold components
  rw [splitSlashes_eq_splitOn]

theorem filter_components {cs : List String} (h : ∀ c ∈ cs, IsComponent c) :
    cs.filter (fun c => c != "" && c != ".") = cs := by
  refine List.filter_eq_self.mpr fun c hc => ?_
  simp [(h c hc).ne_empty, (h c hc).ne_dot]

/-- Components with slashes between them. -/
theorem components_intercalate {cs : List String} (h : ∀ c ∈ cs, IsComponent c) :
    components (String.intercalate "/" cs) = cs := by
  by_cases hcs : cs = []
  · subst hcs
    rw [String.intercalate_nil]
    rfl
  · have hslash : ∀ l ∈ cs.map String.toList, '/' ∉ l :=
      List.forall_mem_map.mpr fun c hc => (h c hc).slash_notMem
    -- No component has a slash in it, so the path is split where it was joined.
    have hpieces : (String.intercalate "/" cs).toList.splitOn '/' = cs.map String.toList := by
      rw [String.toList_intercalate]
      exact List.splitOn_intercalate '/' hslash (by simpa using hcs)
    have hback : (cs.map String.toList).map String.ofList = cs := by simp
    rw [components_eq, hpieces, hback, filter_components h]

theorem components_slash (s : String) : components ("/" ++ s) = components s := by
  rw [components_eq, components_eq, String.toList_append]
  change ((([] ++ '/' :: s.toList).splitOn '/').map String.ofList).filter _ = _
  rw [List.splitOn_append_cons_self]
  rfl

theorem rootOf_cases (path : String) : rootOf path = "" ∨ rootOf path = "/" ∨ rootOf path = "//" := by
  unfold rootOf
  split <;> simp

theorem components_rootOf_append (path s : String) :
    components (rootOf path ++ s) = components s := by
  rcases rootOf_cases path with h | h | h <;> rw [h]
  · rw [String.empty_append]
  · exact components_slash s
  · change components ("/" ++ ("/" ++ s)) = _
    rw [components_slash, components_slash]

theorem components_normal (path : String) : components (normal path) = components path := by
  have hbody : components (rootOf path ++ String.intercalate "/" (components path)) =
      components path := by
    rw [components_rootOf_append, components_intercalate fun c hc => isComponent_of_mem hc]
  unfold normal
  simp only
  split
  · -- Nothing is left of the path, and its normal form is a dot, which is no component.
    rename_i hempty
    rw [← hbody, hempty]
    rfl
  · exact hbody

theorem head_intercalate {c : String} (h : IsComponent c) (cs : List String) :
    (String.intercalate "/" (c :: cs)).toList.head? ≠ some '/' := by
  have hc : c.toList ≠ [] := by simpa using h.ne_empty
  have hhead : (String.intercalate "/" (c :: cs)).toList.head? = c.toList.head? := by
    cases cs with
    | nil => rw [String.intercalate_singleton]
    | cons d cs =>
      rw [String.intercalate_cons_cons, String.toList_append, String.toList_append,
        List.append_assoc, List.head?_append_of_ne_nil _ hc]
  rw [hhead]
  intro hslash
  exact h.slash_notMem (List.mem_of_head? hslash)

/-- The normal form starts with a slash exactly if the path does. -/
theorem head_normal (path : String) :
    (normal path).toList.head? = some '/' ↔ rootOf path ≠ "" := by
  unfold normal
  simp only
  rcases rootOf_cases path with h | h | h <;> rw [h]
  · simp only [String.empty_append, ne_eq, not_true_eq_false, iff_false]
    cases hcs : components path with
    | nil =>
      rw [String.intercalate_nil]
      decide
    | cons c cs =>
      have hc : IsComponent c := isComponent_of_mem (hcs ▸ List.mem_cons_self)
      split
      · decide
      · exact head_intercalate hc cs
  · rw [if_neg (by simp [String.ext_iff])]
    simp
  · rw [if_neg (by simp [String.ext_iff])]
    simp

/-- A path has a root exactly if it starts with a slash. -/
theorem rootOf_eq_empty_iff (path : String) :
    rootOf path = "" ↔ path.toList.head? ≠ some '/' := by
  unfold rootOf
  split
  · simp_all
  · simp_all
  · simp_all
  · rename_i hslash
    simp only [ne_eq, true_iff]
    intro hhead
    obtain ⟨tail, htail⟩ := List.head?_eq_some_iff.mp hhead
    exact hslash tail htail

theorem rootOf_normal_eq_empty_iff (path : String) :
    rootOf (normal path) = "" ↔ rootOf path = "" := by
  rw [rootOf_eq_empty_iff, ne_eq, head_normal, ne_eq, not_not]

/-- What follows the root does not change it, unless it starts with a slash. -/
theorem rootOf_rootOf_append (path : String) {s : String} (h : s.toList.head? ≠ some '/') :
    rootOf (rootOf path ++ s) = rootOf path := by
  rcases rootOf_cases path with hroot | hroot | hroot
  · rw [hroot, String.empty_append]
    exact (rootOf_eq_empty_iff s).mpr h
  all_goals
    rw [hroot]
    unfold rootOf
    rw [String.toList_append]
    cases hs : s.toList with
    | nil => rfl
    | cons c cs =>
      have hc : c ≠ '/' := by simpa [hs] using h
      simp [hc]

theorem rootOf_normal (path : String) : rootOf (normal path) = rootOf path := by
  unfold normal
  simp only
  split
  · rename_i hempty
    -- Without a body there is no root either.
    have hroot : rootOf path = "" := (String.append_eq_empty_iff.mp hempty).1
    rw [hroot]
    rfl
  · refine rootOf_rootOf_append path ?_
    cases hcs : components path with
    | nil =>
      rw [String.intercalate_nil]
      decide
    | cons c cs => exact head_intercalate (isComponent_of_mem (hcs ▸ List.mem_cons_self)) cs

theorem normal_normal (path : String) : normal (normal path) = normal path := by
  have hbody : rootOf (normal path) ++ String.intercalate "/" (components (normal path)) =
      rootOf path ++ String.intercalate "/" (components path) := by
    rw [rootOf_normal, components_normal]
  exact congrArg (fun body => if body = "" then "." else body) hbody

end Grader.Path
