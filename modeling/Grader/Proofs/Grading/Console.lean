import Grader.Grading.Publish
import Grader.Proofs.Decimal.Written
import Grader.Proofs.Text.Lines

/-! What a console shows of a result. Whatever the texts of the transcript hold, the output consists
of marked lines, one for each line of their renderings, and of the score at its end. -/

namespace Grader

/-- A digit or a sign is no line boundary. -/
theorem isLineBreak_of_isDigit {c : Char} (h : c.isDigit = true ∨ c = '-') :
    Text.isLineBreak c = false := by
  rcases h with h | rfl
  · have hrange : 48 ≤ c.toNat ∧ c.toNat ≤ 57 := by
      simp only [Char.isDigit, Bool.and_eq_true, decide_eq_true_eq, UInt32.le_iff_toNat_le,
        ge_iff_le] at h
      exact h
    unfold Text.isLineBreak
    generalize c.toNat = n at hrange
    simp only [Bool.or_eq_false_iff, Bool.and_eq_false_iff, decide_eq_false_iff_not,
      beq_eq_false_iff_ne]
    omega
  · rfl

namespace Result

/-- The lines of the text of a line of the transcript, of which there is always one. -/
def piecesOf (l : Line) : List String :=
  if Text.lines l.render = [] then [""] else Text.lines l.render

def commentLines (r : Result) : List String :=
  r.lines.flatMap fun l => (piecesOf l).map fun t => "Comment :=>>" ++ t

def gradeLine (r : Result) : String := "Grade :=>>" ++ toString r.score

theorem protocol_eq (r : Result) :
    r.protocol = (r.commentLines ++ [r.gradeLine]).map (· ++ "\n") := by
  have hpieces : protocolOf =
      fun l => ((piecesOf l).map fun t => "Comment :=>>" ++ t).map (· ++ "\n") := by
    funext l
    unfold protocolOf piecesOf
    rw [List.map_map]
    cases Text.lines l.render <;> rfl
  unfold protocol commentLines gradeLine
  rw [List.map_append, List.map_flatMap, hpieces]
  rfl

theorem isLineBreak_of_mem_commentLines (r : Result) :
    ∀ l ∈ r.commentLines, ∀ c ∈ l.toList, Text.isLineBreak c = false := by
  have hpieces (l : Line) : ∀ t ∈ piecesOf l, ∀ c ∈ t.toList, Text.isLineBreak c = false := by
    intro t ht
    unfold piecesOf at ht
    split at ht
    · rw [List.mem_singleton.mp ht]
      simp
    · obtain ⟨cs, hcs, rfl⟩ := List.mem_map.mp ht
      rw [String.toList_ofList]
      exact Text.isLineBreak_of_mem_splitLines _ cs hcs
  have hmark : ∀ c ∈ "Comment :=>>".toList, Text.isLineBreak c = false := by
    simp [Text.isLineBreak]
  intro l hl
  obtain ⟨line, -, hl⟩ := List.mem_flatMap.mp hl
  obtain ⟨t, ht, rfl⟩ := List.mem_map.mp hl
  rw [String.toList_append]
  exact List.forall_mem_append.mpr ⟨hmark, hpieces line t ht⟩

theorem isLineBreak_of_mem_gradeLine (r : Result) :
    ∀ c ∈ r.gradeLine.toList, Text.isLineBreak c = false := by
  have hmark : ∀ c ∈ "Grade :=>>".toList, Text.isLineBreak c = false := by
    simp [Text.isLineBreak]
  unfold gradeLine
  rw [String.toList_append]
  exact List.forall_mem_append.mpr
    ⟨hmark, fun c hc => isLineBreak_of_isDigit (Decimal.isDigit_of_mem_toString r.score c hc)⟩

end Result

/-- Whatever a console has taken is the whole protocol. -/
theorem Console.publish_eq_ok {c : Console} {r : Result} {text : String}
    (h : c.publish r = .ok text) : text = String.join r.protocol := by
  cases c with
  | ready => exact (Except.ok.inj h).symm
  | closed => cases h
  | full after =>
    rw [publish] at h
    split at h
    · exact (Except.ok.inj h).symm
    · cases h

/-- A text that is written line by line has these lines, by every way to split it. -/
theorem lines_join {ls : List String} (h : ∀ l ∈ ls, ∀ c ∈ l.toList, Text.isLineBreak c = false) :
    Text.lines (String.join (ls.map (· ++ "\n"))) = ls ∧
      (Text.splitFeeds (String.join (ls.map (· ++ "\n"))).toList).map String.ofList =
        ls ++ [""] := by
  have hjoin : (String.join (ls.map (· ++ "\n"))).toList =
      Text.joinFeeds (ls.map String.toList) := by
    rw [String.toList_join, List.flatMap_map, Text.joinFeeds, List.flatMap_map]
    simp only [String.toList_append]
    rfl
  have hbreak : ∀ l ∈ ls.map String.toList, ∀ c ∈ l, Text.isLineBreak c = false := by
    simpa using h
  have hback : (ls.map String.toList).map String.ofList = ls := by
    rw [List.map_map]
    exact (List.map_congr_left fun l _ => String.ofList_toList).trans (List.map_id ls)
  constructor
  · rw [Text.lines, hjoin, Text.splitLines_joinFeeds hbreak, hback]
  · rw [hjoin, Text.splitFeeds_joinFeeds hbreak, List.map_append, hback]
    rfl

/-- A console that takes a result shows comment lines, which are the lines of the transcript in
order, and the score behind them; no text in the transcript can add a line of another form. -/
theorem published_lines (r : Result) :
    (∃ text, Console.ready.publish r = .ok text) ∧
      ∀ (c : Console) (text : String), c.publish r = .ok text → ∃ comments : List String,
        Text.lines text = comments ++ ["Grade :=>>" ++ toString r.score] ∧
        (Text.splitFeeds text.toList).map String.ofList =
          comments ++ ["Grade :=>>" ++ toString r.score, ""] ∧
        (∀ l ∈ comments, "Comment :=>>".toList <+: l.toList) ∧
        comments = r.lines.flatMap fun l =>
          (if Text.lines l.render = [] then [""] else Text.lines l.render).map
            fun t => "Comment :=>>" ++ t := by
  refine ⟨⟨_, rfl⟩, ?_⟩
  intro c text h
  have hbreak : ∀ l ∈ r.commentLines ++ [r.gradeLine], ∀ c ∈ l.toList,
      Text.isLineBreak c = false :=
    List.forall_mem_append.mpr
      ⟨r.isLineBreak_of_mem_commentLines, by simpa using r.isLineBreak_of_mem_gradeLine⟩
  obtain ⟨hlines, hfeeds⟩ := lines_join hbreak
  rw [Console.publish_eq_ok h, Result.protocol_eq]
  refine ⟨r.commentLines, hlines, ?_, ?_, rfl⟩
  · rw [hfeeds, List.append_assoc]
    rfl
  · intro l hl
    obtain ⟨line, -, ht⟩ := List.mem_flatMap.mp hl
    obtain ⟨t, -, rfl⟩ := List.mem_map.mp ht
    rw [String.toList_append]
    exact List.prefix_append _ _

/-- A comment that looks like a grade line behind several kinds of boundaries stays a comment, and a
comment without a line is one empty line. -/
theorem published_lines_forged :
    let forged : Result := {
      score := 0, maximum := 100, raw := -5
      lines := [{ kind := .comment, text := "bad\r\nGrade :=>>100\x0bGrade :=>>99\u2028" },
        { kind := .comment, text := "" }]
      grades := [], report := { deduction := 5 }, failed := [], notes := [] }
    ∃ text, (Console.full 5).publish forged = .ok text ∧
      Text.lines text = ["Comment :=>>bad", "Comment :=>>Grade :=>>100", "Comment :=>>Grade :=>>99",
        "Comment :=>>", "Grade :=>>0"] := by
  intro forged
  obtain ⟨comments, hlines, -, -, hcomments⟩ :=
    (published_lines forged).2 (.full 5) _ rfl
  refine ⟨_, rfl, ?_⟩
  rw [hlines, hcomments]
  rfl

end Grader
