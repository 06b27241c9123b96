import Grader.Text.Lines
import Mathlib

/-! Lines of texts: a line holds no boundary, and a text that is written line by line, each with a
line feed behind it, is split into the lines that were written. -/

namespace Grader.Text

/-- The text of lines, each with a line feed behind it. -/
def joinFeeds (ls : List (List Char)) : List Char := ls.flatMap (· ++ ['\n'])

theorem joinFeeds_cons (l : List Char) (ls : List (List Char)) :
    joinFeeds (l :: ls) = l ++ '\n' :: joinFeeds ls := by
  unfold joinFeeds
  rw [List.flatMap_cons, List.append_assoc, List.singleton_append]

theorem forall_mem_consLine {P : Char → Prop} {c : Char} {ls : List (List Char)} (hc : P c)
    (h : ∀ l ∈ ls, ∀ d ∈ l, P d) : ∀ l ∈ consLine c ls, ∀ d ∈ l, P d := by
  cases ls with
  | nil => simpa [consLine] using hc
  | cons l ls => simpa [consLine, hc] using h

/-- No line holds a line boundary. -/
theorem isLineBreak_of_mem_splitLines (cs : List Char) :
    ∀ l ∈ splitLines cs, ∀ c ∈ l, isLineBreak c = false := by
  fun_induction splitLines cs with
  | case1 => simp
  | case2 rest ih => simpa using ih
  | case3 c rest _ hc ih => simpa using ih
  | case4 c rest _ hc ih => exact forall_mem_consLine (by simpa using hc) ih

theorem splitLines_cons_of_not_isLineBreak {c : Char} (hc : isLineBreak c = false)
    (cs : List Char) : splitLines (c :: cs) = consLine c (splitLines cs) := by
  have hcr : c ≠ '\r' := by
    rintro rfl
    cases hc
  rw [splitLines]
  · simp [hc]
  · intro rest h
    exact absurd h hcr

/-- A line feed ends a line without boundaries. -/
theorem splitLines_append_feed {l : List Char} (h : ∀ c ∈ l, isLineBreak c = false)
    (cs : List Char) : splitLines (l ++ '\n' :: cs) = l :: splitLines cs := by
  induction l with
  | nil =>
    rw [List.nil_append, splitLines]
    · rfl
    · intro rest h
      cases h
  | cons c l ih =>
    obtain ⟨hc, hl⟩ := List.forall_mem_cons.mp h
    rw [List.cons_append, splitLines_cons_of_not_isLineBreak hc, ih hl, consLine]

theorem splitFeeds_append_feed {l : List Char} (h : ∀ c ∈ l, isLineBreak c = false)
    (cs : List Char) : splitFeeds (l ++ '\n' :: cs) = l :: splitFeeds cs := by
  induction l with
  | nil => rfl
  | cons c l ih =>
    obtain ⟨hc, hl⟩ := List.forall_mem_cons.mp h
    have hfeed : c ≠ '\n' := by
      rintro rfl
      cases hc
    rw [List.cons_append, splitFeeds, ih hl, consLine]
    exact hfeed

variable {ls : List (List Char)} (h : ∀ l ∈ ls, ∀ c ∈ l, isLineBreak c = false)

include h

theorem splitLines_joinFeeds : splitLines (joinFeeds ls) = ls := by
  induction ls with
  | nil => rfl
  | cons l ls ih =>
    obtain ⟨hl, hls⟩ := List.forall_mem_cons.mp h
    rw [joinFeeds_cons, splitLines_append_feed hl, ih hls]

/-- Nothing follows the last line feed. -/
theorem splitFeeds_joinFeeds : splitFeeds (joinFeeds ls) = ls ++ [[]] := by
  induction ls with
  | nil => rfl
  | cons l ls ih =>
    obtain ⟨hl, hls⟩ := List.forall_mem_cons.mp h
    rw [joinFeeds_cons, splitFeeds_append_feed hl, ih hls, List.cons_append]

end Grader.Text
