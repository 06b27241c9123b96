import Grader.Proofs.Policy.Refusal
import Grader.Proofs.Yaml.Failures

/-! How reading a policy fails. Whatever a file holds, the policy of a command is read from it or an
plain failure says why not, and so it is when a policy is changed. -/

namespace Grader

theorem Intake.ordinary_required (v : Verdict) : Ordinary v.required := by
  refine .map ?_
  unfold Verdict.demand
  split
  · exact .ok _
  · exact .error (.of_reach rfl)

theorem Intake.ordinary_policyFile (fs : Files) (path : String) :
    Ordinary (policyFile fs path) := by
  unfold policyFile judgePolicy
  split
  · exact .ok _
  · split
    · exact .ok _
    · rename_i text _
      have hload := Yaml.ordinary_load text
      split
      · rename_i f hf
        split
        · exact .ok _
        · -- What is no fault of the document's form leaves the check, and is plain all the same.
          exact .error (hload f hf)
      · exact .ok _

namespace Policy

theorem ordinary_readMapping (fs : Files) (path : String) : Ordinary (readMapping fs path) := by
  unfold readMapping
  refine .bind (.mapError fun e _ => ?_) fun bytes _ =>
    .bind (.mapError fun _ _ => .of_reach rfl) fun text _ => ?_
  · cases e <;> exact .of_reach rfl
  · refine (Yaml.ordinary_load text).bind fun v _ => ?_
    split
    · exact .ok _
    · split
      · exact .error (.of_reach rfl)
      · exact .ok _

/-- A mapping that no policy can be read from is refused by a failure about a value or about a
type. -/
theorem ordinary_ofValue (es : List (Value × Value)) : Ordinary (ofValue (.dict es)) := by
  intro f h
  rcases isOf_of_ofValue_eq_error h with ⟨hkind, -⟩ | ⟨hkind, -⟩
  · exact hkind.plain (by decide)
  · exact hkind.plain (by decide)

theorem ordinary_load (fs : Files) (path : String) : Ordinary (load fs path) := by
  unfold load
  refine (ordinary_readMapping fs _).bind fun es _ => .mapError fun f hf => ?_
  have hplain : f.Plain := ordinary_ofValue _ f hf
  unfold refusedDocument
  split
  · exact .of_reach rfl
  · exact hplain

theorem ordinary_withOverrides (p : Policy) (changes : List (String × Value)) :
    Ordinary (p.withOverrides changes) := by
  refine .mapError fun f hf => ?_
  have hplain : f.Plain := ordinary_ofValue _ f hf
  unfold refusedChanges
  split
  · exact .of_reach rfl
  · exact hplain

end Policy

theorem Command.ordinary_givenPolicy (fs : Files) (path : Option String) :
    Ordinary (Command.givenPolicy fs path) := by
  cases path with
  | none => exact .ok _
  | some path =>
    exact (Intake.ordinary_policyFile fs _).bind fun verdict _ =>
      (Intake.ordinary_required verdict).bind fun _ _ => Policy.ordinary_load fs path

end Grader
