import Grader.Proofs.Grading.Console
import Grader.Proofs.Ordinary

/-!
Sinks, one after the other. A console that does not fail has all lines of the protocol, and one
score among them; only then the sinks behind it are reached. Whatever a sink fails with is an
ordinary failure.
-/

namespace Grader

namespace Result

/-- Whether a line is marked as one of a score. -/
def isGradeLine (l : String) : Bool := "Grade :=>>".toList.isPrefixOf l.toList

theorem lines_join_protocol (r : Result) :
    Text.lines (String.join r.protocol) = r.commentLines ++ [r.gradeLine] := by
  have hbreak : ∀ l ∈ r.commentLines ++ [r.gradeLine], ∀ c ∈ l.toList,
      Text.isLineBreak c = false :=
    List.forall_mem_append.mpr
      ⟨r.isLineBreak_of_mem_commentLines, by simpa using r.isLineBreak_of_mem_gradeLine⟩
  rw [protocol_eq]
  exact (lines_join hbreak).1

/-- A comment is not marked as a score. -/
theorem filter_isGradeLine (r : Result) :
    (r.commentLines ++ [r.gradeLine]).filter isGradeLine = [r.gradeLine] := by
  have hcomments : r.commentLines.filter isGradeLine = [] := by
    refine List.filter_eq_nil_iff.mpr fun l hl => ?_
    obtain ⟨line, -, hl⟩ := List.mem_flatMap.mp hl
    obtain ⟨t, -, rfl⟩ := List.mem_map.mp hl
    unfold isGradeLine
    rw [String.toList_append]
    simp
  have hgrade : isGradeLine r.gradeLine = true := by
    unfold isGradeLine gradeLine
    rw [String.toList_append]
    exact List.isPrefixOf_iff_prefix.mpr (List.prefix_append _ _)
  rw [List.filter_append, hcomments, List.nil_append, List.filter_singleton, hgrade]
  rfl

end Result

/-- A console has taken the whole protocol exactly if publishing on it succeeds. -/
theorem Console.taken_eq_iff {c : Console} {r : Result} :
    c.taken r.protocol = r.protocol ↔ ∃ text, c.publish r = .ok text := by
  have hlast : r.protocol ≠ [] := by simp [Result.protocol]
  cases c with
  | ready => exact ⟨fun _ => ⟨_, rfl⟩, fun _ => rfl⟩
  | closed =>
    refine ⟨fun h => absurd h.symm hlast, ?_⟩
    rintro ⟨text, h⟩
    cases h
  | full after =>
    simp only [taken, publish, List.take_eq_self_iff]
    split
    · rename_i hle
      exact ⟨fun _ => ⟨_, rfl⟩, fun _ => hle⟩
    · rename_i hle
      refine ⟨fun h => absurd h hle, ?_⟩
      rintro ⟨text, h⟩
      cases h

theorem Record.ordinary_ofResult (r : Result) (scale : Float) : Ordinary (ofResult r scale) := by
  have hscaled (points : Int) : Ordinary (scaled points scale) := by
    unfold scaled
    split
    · exact .ok _
    · exact .error (.of_reach rfl)
  refine (hscaled _).bind fun score _ => (hscaled _).bind fun maximum _ => ?_
  simp only
  split
  · exact .ok _
  · exact .error (.of_reach rfl)

theorem Files.ordinary_publish (fs : Files) (path : String) (bytes : List UInt8) :
    Ordinary (fs.publish path bytes) := by
  have herror (e : FileError) (path : String) : (e.failure path).Plain :=
    .of_reach (by cases e <;> rfl)
  unfold publish
  simp only
  split
  · exact .error (.of_reach rfl)
  · split
    · exact .error (herror _ _)
    · exact .mapError fun e _ => herror e (Path.normal path)

theorem ResultFile.ordinary_publish (f : ResultFile) (r : Result) (fs : Files) :
    Ordinary (f.publish r fs) := by
  refine (Record.ordinary_ofResult r f.scale).bind fun record _ => ?_
  have hwritten := Files.ordinary_publish fs f.path (Text.Utf8.encode record.text)
  split
  · exact .ok _
  · rename_i e he
    refine .error ?_
    split
    · exact .of_reach rfl
    · exact hwritten e he

namespace Publication

variable {r : Result} {fs : Files} {c : Console} {s : Sink} {rest sinks : List Sink} {g : Failure}

/-- A sink fails by an ordinary failure, one that can be described. -/
theorem plain_ofSink (h : (ofSink r fs s).failure = some g) : g.Plain := by
  cases s with
  | console c =>
    unfold ofSink at h
    simp only at h
    split at h
    · cases h
    · rename_i e _
      cases h
      cases e <;> exact .of_reach rfl
  | file f =>
    unfold ofSink at h
    simp only at h
    split at h
    · cases h
    · rename_i e he
      cases h
      exact f.ordinary_publish r fs g he

theorem ofSinks_cons_of_failure (h : (ofSink r fs s).failure = some g) :
    ofSinks r fs (s :: rest) = ofSink r fs s := by
  simp only [ofSinks, h]

theorem ofSinks_cons_of_none (h : (ofSink r fs s).failure = none) :
    ofSinks r fs (s :: rest) =
      { ofSinks r (ofSink r fs s).files rest with
        effects := (ofSink r fs s).effects ++ (ofSinks r (ofSink r fs s).files rest).effects } := by
  simp only [ofSinks, h]

/-- Sinks, one after the other, fail by an ordinary failure. -/
theorem plain_ofSinks (h : (ofSinks r fs sinks).failure = some g) : g.Plain := by
  induction sinks generalizing fs with
  | nil => cases h
  | cons s rest ih =>
    cases hs : (ofSink r fs s).failure with
    | some f =>
      rw [ofSinks_cons_of_failure hs] at h
      exact plain_ofSink h
    | none =>
      rw [ofSinks_cons_of_none hs] at h
      exact ih h

theorem ofSinks_singleton (s : Sink) : ofSinks r fs [s] = ofSink r fs s := by
  cases hs : (ofSink r fs s).failure with
  | some f => exact ofSinks_cons_of_failure hs
  | none =>
    rw [ofSinks_cons_of_none hs]
    simp only [ofSinks, List.append_nil]
    rw [← hs]

/-- A console fails exactly if it does not take the whole protocol. -/
theorem failure_ofSink_console (r : Result) (fs : Files) (c : Console) :
    c.taken r.protocol = r.protocol ∧ (ofSink r fs (.console c)).failure = none ∨
      c.taken r.protocol ≠ r.protocol ∧
        ∃ g, g.isA "SinkError" = true ∧ (ofSink r fs (.console c)).failure = some g := by
  cases hpublish : c.publish r with
  | ok text =>
    refine .inl ⟨Console.taken_eq_iff.mpr ⟨text, hpublish⟩, ?_⟩
    simp only [ofSink, hpublish]
  | error e =>
    refine .inr ⟨fun htaken => ?_, e.failure, by cases e <;> rfl, ?_⟩
    · obtain ⟨text, htext⟩ := Console.taken_eq_iff.mp htaken
      rw [hpublish] at htext
      cases htext
    · simp only [ofSink, hpublish]

/-- A console that takes the protocol changes no files, and the sinks behind it are next. -/
theorem ofSinks_console_of_taken (h : c.taken r.protocol = r.protocol) :
    ofSinks r fs (.console c :: rest) =
      { ofSinks r fs rest with
        effects := r.protocol.map .wrote ++ (ofSinks r fs rest).effects } := by
  rcases failure_ofSink_console r fs c with ⟨-, hpassed⟩ | ⟨hnot, -⟩
  · rw [ofSinks_cons_of_none hpassed]
    simp only [ofSink, h]
  · exact absurd h hnot

/-- A console that does not is the last of the sinks. -/
theorem ofSinks_console_of_not_taken (h : c.taken r.protocol ≠ r.protocol) :
    ∃ g, g.isA "SinkError" = true ∧ ofSinks r fs (.console c :: rest) =
      { effects := (c.taken r.protocol).map .wrote, files := fs, failure := some g } := by
  rcases failure_ofSink_console r fs c with ⟨htaken, -⟩ | ⟨-, g, hkind, hfailed⟩
  · exact absurd htaken h
  · refine ⟨g, hkind, ?_⟩
    rw [ofSinks_cons_of_failure hfailed, ← hfailed]
    rfl

/-- A file for a record is touched only if there is a record. -/
theorem ofSink_file (f : ResultFile) :
    ((ofSink r fs (.file f)).effects = [] ∧ (ofSink r fs (.file f)).files = fs) ∨
      (ofSink r fs (.file f)).effects = [.saved f.path] := by
  cases hrecord : Record.ofResult r f.scale with
  | ok record =>
    right
    simp only [ofSink, hrecord]
    split <;> rfl
  | error e =>
    left
    have hpublish : f.publish r fs = .error e :=
      Traversal.bind_eq_error_iff.mpr (.inl hrecord)
    simp [ofSink, hrecord, hpublish, Except.isOk, Except.toBool]

theorem ofSink_file_of_publish {f : ResultFile} {record : Record} {fs' : Files}
    (h : f.publish r fs = .ok (record, fs')) :
    ofSink r fs (.file f) = { effects := [.saved f.path], files := fs' } := by
  obtain ⟨made, hmade, -⟩ := Traversal.bind_eq_ok_iff.mp h
  simp only [ofSink, hmade, h]
  rfl

/-- What is written is the text of the lines, whatever files are saved between them. -/
theorem output_eq {b : Publication} {ls : List String} {later : List Effect}
    (h : b.effects = ls.map .wrote ++ later) (hlater : ∀ e ∈ later, e.line? = none) :
    b.output = String.join ls := by
  have hnone : later.filterMap Effect.line? = [] := List.filterMap_eq_nil_iff.mpr hlater
  unfold output
  rw [h, List.filterMap_append, hnone, List.append_nil, List.filterMap_map]
  exact congrArg String.join List.filterMap_some

end Publication

end Grader
