import Grader.Intake
import Grader.Proofs.Traversal

/-! Verdicts on files. Every check either accepts a file, with what is found in it, or rejects it
for one reason; a strict check accepts what a lenient one accepts, and nothing else. -/

namespace Grader.Intake

/-- A verdict that accepts a file has what is found in it; one that rejects it has one reason. -/
inductive Verdict.IsClear : Verdict → Prop
  | accepted (warnings : List Warning) (c : Content) :
      IsClear { warnings := warnings, content := some c }
  | rejected (warnings : List Warning) (r : Rejection) :
      IsClear { errors := [r], warnings := warnings }

namespace Verdict

variable {v : Verdict}

theorem IsClear.length_errors_le (h : v.IsClear) : v.errors.length ≤ 1 := by
  cases h with
  | accepted => exact Nat.zero_le 1
  | rejected => exact Nat.le_refl 1

theorem IsClear.isSome_content_iff (h : v.IsClear) :
    v.content.isSome = true ↔ v.errors = [] := by
  cases h with
  | accepted => exact iff_of_true rfl rfl
  | rejected => exact iff_of_false Bool.false_ne_true (List.cons_ne_nil _ _)

theorem isValid_iff : v.isValid = true ↔ v.errors = [] := List.isEmpty_iff

theorem report_lenient : v.report false = .ok v := rfl

theorem report_strict_of_accepted (h : v.errors = []) : v.report true = .ok v := by
  unfold report
  rw [isValid_iff.mpr h]
  rfl

theorem report_strict_of_rejected (h : v.errors ≠ []) :
    v.report true = .error (.rejected v.errors) := by
  unfold report
  rw [Bool.eq_false_iff.mpr fun hvalid => h (isValid_iff.mp hvalid)]
  rfl

/-- What a command demands of a verdict is what a strict check reports. -/
theorem mapError_report (v : Verdict) : (v.report true).mapError Obstacle.failure = v.required := by
  unfold required demand
  by_cases h : v.errors = []
  · rw [report_strict_of_accepted h, if_pos (isValid_iff.mpr h)]
    rfl
  · rw [report_strict_of_rejected h, if_neg fun hvalid => h (isValid_iff.mp hvalid)]
    rfl

end Verdict

section Judgement

variable {path : String} {s : Sight} {v : Verdict}

theorem isClear_judgeFile : (judgeFile path s).IsClear := by
  unfold judgeFile
  simp only
  split
  · exact .rejected _ _
  · exact .accepted _ _

/-- The name of a submission gives no more than a warning. -/
theorem judgeSubmission_eq (path : String) (s : Sight) :
    ∃ warnings, judgeSubmission path s = { judgeFile path s with warnings := warnings } := by
  unfold judgeSubmission
  simp only
  split
  · exact ⟨_, rfl⟩
  · exact ⟨_, rfl⟩

theorem errors_judgeSubmission : (judgeSubmission path s).errors = (judgeFile path s).errors := by
  obtain ⟨warnings, h⟩ := judgeSubmission_eq path s
  rw [h]

theorem isClear_judgeSubmission : (judgeSubmission path s).IsClear := by
  obtain ⟨warnings, h⟩ := judgeSubmission_eq path s
  have hfile : (judgeFile path s).IsClear := isClear_judgeFile
  rw [h]
  generalize judgeFile path s = w at hfile
  cases hfile with
  | accepted => exact .accepted _ _
  | rejected => exact .rejected _ _

theorem isClear_ofDocument (path : String) (warnings : List Warning) (doc : Value) :
    (ofDocument path warnings doc).IsClear := by
  cases doc with
  | none | dict => exact .accepted _ _
  | _ => exact .rejected _ _

theorem isClear_judgePolicy (h : judgePolicy path s = .ok v) : v.IsClear := by
  unfold judgePolicy at h
  split at h
  · cases h
    exact .rejected _ _
  · split at h
    · cases h
      exact .rejected _ _
    · split at h
      · split at h
        · cases h
          exact .rejected _ _
        · cases h
      · cases h
        exact isClear_ofDocument _ _ _

theorem isClear_judge {p : Purpose} (h : p.judge path s = .ok v) : v.IsClear := by
  cases p with
  | file =>
    cases h
    exact isClear_judgeFile
  | submission =>
    cases h
    exact isClear_judgeSubmission
  | policy => exact isClear_judgePolicy h

/-- A file is accepted as a file exactly if it can be opened. -/
theorem errors_judgeFile_iff :
    (judgeFile path s).errors = [] ↔ ∃ odd, opened (Path.normal path) s = .ok odd := by
  unfold judgeFile
  simp only
  split
  · rename_i hopened
    rw [hopened]
    exact iff_of_false (List.cons_ne_nil _ _) fun ⟨_, h⟩ => nomatch h
  · rename_i hopened
    rw [hopened]
    exact iff_of_true rfl ⟨_, rfl⟩

/-- Whatever is accepted for a purpose is accepted as a file. -/
theorem errors_judgeFile_of_judge {p : Purpose} (h : p.judge path s = .ok v) (hv : v.errors = []) :
    (judgeFile path s).errors = [] := by
  cases p with
  | file =>
    cases h
    exact hv
  | submission =>
    cases h
    exact errors_judgeSubmission.symm.trans hv
  | policy =>
    rw [errors_judgeFile_iff]
    cases hopened : opened (Path.normal path) s with
    | ok odd => exact ⟨odd, rfl⟩
    | error r =>
      -- A policy file that cannot be opened is rejected before anything is read.
      have hrejected : judgePolicy path s = .ok (.rejecting r) := by
        unfold judgePolicy
        rw [hopened]
      obtain rfl := Except.ok.inj (hrejected.symm.trans h)
      cases hv

end Judgement

section Check

variable {strict : Bool} {purpose : Purpose} {look : String → Except Failure Sight}
  {path : String} {v : Verdict} {s : Sight}

theorem check_of_judge (hs : look (Path.normal path) = .ok s) (hv : purpose.judge path s = .ok v)
    (strict : Bool) : check strict purpose look path = v.report strict := by
  unfold check
  rw [hs]
  change (purpose.judge path s).mapError Obstacle.failed >>= _ = _
  rw [hv]
  rfl

/-- A lenient check gives its verdict as it is. -/
theorem check_lenient_iff : check false purpose look path = .ok v ↔
    ∃ s, look (Path.normal path) = .ok s ∧ purpose.judge path s = .ok v := by
  constructor
  · intro h
    obtain ⟨s, hs, h⟩ := Traversal.bind_eq_ok_iff.mp h
    obtain ⟨w, hw, h⟩ := Traversal.bind_eq_ok_iff.mp h
    obtain rfl := Except.ok.inj (Verdict.report_lenient.symm.trans h)
    exact ⟨s, Traversal.mapError_eq_ok_iff.mp hs, Traversal.mapError_eq_ok_iff.mp hw⟩
  · rintro ⟨s, hs, hv⟩
    exact check_of_judge hs hv false

/-- A check that comes to no verdict fails in the same way whether or not it is strict. -/
theorem check_of_failed {o : Obstacle} (h : check false purpose look path = .error o) :
    check true purpose look path = .error o ∧ ∃ f, o = .failed f := by
  rcases Traversal.bind_eq_error_iff.mp h with hs | ⟨s, hs, h⟩
  · obtain ⟨f, -, rfl⟩ := Traversal.mapError_eq_error_iff.mp hs
    exact ⟨Traversal.bind_eq_error_iff.mpr (.inl hs), f, rfl⟩
  · rcases Traversal.bind_eq_error_iff.mp h with hv | ⟨w, -, hreport⟩
    · obtain ⟨f, -, rfl⟩ := Traversal.mapError_eq_error_iff.mp hv
      refine ⟨Traversal.bind_eq_error_iff.mpr (.inr ⟨s, hs, ?_⟩), f, rfl⟩
      exact Traversal.bind_eq_error_iff.mpr (.inl hv)
    · cases hreport

end Check

/-- Whatever a path shows and whatever it is checked as: a lenient check that comes to a verdict has
at most one error, and something found in the file exactly if there is none. The strict check comes
to the same verdict if it has no error, and else it rejects the file for exactly its errors, as a
command does that demands the verdict. Whatever is accepted for a purpose is accepted as a file.
Without a verdict the two checks fail in the same way. -/
theorem strict_agrees_with_lenient (purpose : Purpose) (look : String → Except Failure Sight)
    (path : String) :
    (∀ v, check false purpose look path = .ok v →
      v.errors.length ≤ 1 ∧ (v.content.isSome = true ↔ v.errors = []) ∧
      (v.errors = [] → check true purpose look path = .ok v) ∧
      (v.errors ≠ [] → check true purpose look path = .error (.rejected v.errors)) ∧
      (check true purpose look path).mapError Obstacle.failure = v.required ∧
      (v.errors = [] → ∃ w, check false .file look path = .ok w ∧ w.errors = [])) ∧
    ∀ o, check false purpose look path = .error o →
      check true purpose look path = .error o ∧ ∃ f, o = .failed f := by
  refine ⟨fun v h => ?_, fun o => check_of_failed⟩
  obtain ⟨s, hs, hv⟩ := check_lenient_iff.mp h
  have hclear : v.IsClear := isClear_judge hv
  have hstrict : check true purpose look path = v.report true := check_of_judge hs hv true
  refine ⟨hclear.length_errors_le, hclear.isSome_content_iff, fun haccepted => ?_,
    fun hrejected => ?_, ?_, fun haccepted => ?_⟩
  · rw [hstrict, Verdict.report_strict_of_accepted haccepted]
  · rw [hstrict, Verdict.report_strict_of_rejected hrejected]
  · rw [hstrict, Verdict.mapError_report]
  · exact ⟨judgeFile path s, check_lenient_iff.mpr ⟨s, hs, rfl⟩,
      errors_judgeFile_of_judge hv haccepted⟩

/-- A policy file that opens and then breaks off: rejected as a policy, accepted as a file. -/
theorem strict_agrees_with_lenient_breaking :
    let look : String → Except Failure Sight := fun _ =>
      .ok (.file (.ok (some 45)) (.error "[Errno 5] Input/output error"))
    check true .policy look "./p.yaml" =
      .error (.rejected [.unreadable "./p.yaml" "[Errno 5] Input/output error"]) ∧
    check true .file look "./p.yaml" = .ok { content := some (.path "p.yaml") } := by
  intro look
  have hnormal : Path.normal "./p.yaml" = "p.yaml" := by decide +kernel
  have hpolicy : check false .policy look "./p.yaml" =
      .ok { errors := [.unreadable "./p.yaml" "[Errno 5] Input/output error"] } := rfl
  have hfile : check false .file look "./p.yaml" = .ok { content := some (.path "p.yaml") } := by
    rw [← hnormal]
    rfl
  obtain ⟨-, -, -, hrejected, -, -⟩ := (strict_agrees_with_lenient .policy look _).1 _ hpolicy
  obtain ⟨-, -, haccepted, -, -, -⟩ := (strict_agrees_with_lenient .file look _).1 _ hfile
  exact ⟨hrejected (List.cons_ne_nil _ _), haccepted rfl⟩

end Grader.Intake
