import Grader.Command.Run
import Grader.Proofs.Failure
import Grader.Proofs.Policy.Document
import Grader.Proofs.Value.Identity

/-! The documents that no policy is read from. Whatever a document holds, it is refused by a failure
about a value, which a command reports as a usage error; all but the documents that name a rule by
a key that is no text. These give a failure about a type, which nobody handles. -/

namespace Grader

/-- A mapping with a key that is no text. -/
def Value.HasUntextualKey : Value → Prop
  | .dict es => ∃ e ∈ es, e.1.isText = false
  | _ => False

namespace Policy

/-- A document that names a rule of its policy by a key that is no text. -/
def NamesUntextually (v : Value) : Prop :=
  ∃ es said, v = .dict es ∧ Value.lookup (.str "rules") (policyEntries es) = some said ∧
    said.HasUntextualKey

section Unknown

variable {unknown : List Value}

/-- Names that are texts can be sorted and joined, so that the refusal is about their value. -/
theorem isOf_unknownRules_of_text (h : ∀ k ∈ unknown, k.isText = true) :
    (unknownRules unknown).IsOf "ValidationError" := by
  have htext {k : Value} (hk : k ∈ unknown) : ∃ s, k = .str s := by
    cases k with
    | str s => exact ⟨s, rfl⟩
    | _ => cases h _ hk
  unfold unknownRules
  extract_lets clash sorted names valid
  -- Texts have an order, so that none of them clashes with another.
  have hclash : clash = none := by
    refine List.findSome?_eq_none_iff.mpr fun v hv => List.findSome?_eq_none_iff.mpr fun w hw => ?_
    obtain ⟨s, rfl⟩ := htext hv
    obtain ⟨t, rfl⟩ := htext hw
    rfl
  have hjoined : (sorted.mapIdx fun i v => (i, v)).find? (fun e => !e.2.isText) = none := by
    refine List.find?_eq_none.mpr fun e he => ?_
    obtain ⟨i, hi, rfl⟩ := List.mem_mapIdx.mp he
    have hmem : sorted[i] ∈ unknown := List.mem_mergeSort.mp (List.getElem_mem hi)
    simp [h _ hmem]
  rw [hclash, hjoined]
  exact .mk' _ _ _

/-- A name that is no text cannot be joined with others, if it can be sorted among them at all. -/
theorem isOf_unknownRules_of_untextual (h : ∃ k ∈ unknown, k.isText = false) :
    (unknownRules unknown).IsOf "TypeError" := by
  obtain ⟨k, hk, htext⟩ := h
  unfold unknownRules
  extract_lets clash sorted names valid
  -- If all names have an order, the sorted ones still have the one that is no text among them.
  have hjoined : (sorted.mapIdx fun i v => (i, v)).find? (fun e => !e.2.isText) ≠ none := by
    intro hnone
    obtain ⟨i, hi, hki⟩ := List.mem_iff_getElem.mp (List.mem_mergeSort.mpr hk : k ∈ sorted)
    have hmem : (i, k) ∈ sorted.mapIdx fun i v => (i, v) :=
      List.mem_mapIdx.mpr ⟨i, hi, congrArg _ hki⟩
    simpa [htext] using List.find?_eq_none.mp hnone _ hmem
  obtain ⟨e, he⟩ := Option.ne_none_iff_exists'.mp hjoined
  rw [he]
  cases clash
  · exact .mk' _ _ _
  · exact .mk' _ _ _

end Unknown

theorem isOf_of_ruleOf_eq_error {r : RuleName} {v : Value} {f : Failure}
    (h : ruleOf r v = .error f) : f.IsOf "ValidationError" := by
  unfold ruleOf at h
  split at h
  case h_5 =>
    cases h
    exact .mk' _ _ _
  all_goals cases h

/-- A key that is no text names no rule. -/
theorem hasUntextualKey_iff {es : List (Value × Value)} :
    (Value.dict es).HasUntextualKey ↔
      ∃ k ∈ (es.map (·.1)).filter fun k => !RuleName.all.any fun r => (Value.str r.text).same k,
        k.isText = false := by
  simp only [Value.HasUntextualKey, List.mem_filter, List.mem_map]
  constructor
  · rintro ⟨e, he, htext⟩
    have hstray : ¬(RuleName.all.any fun r => (Value.str r.text).same e.1) = true := by
      intro hany
      obtain ⟨r, -, hr⟩ := List.any_eq_true.mp hany
      rw [(Value.same_str r.text e.1).mp hr] at htext
      cases htext
    exact ⟨e.1, ⟨⟨e, he, rfl⟩, by simpa using hstray⟩, htext⟩
  · rintro ⟨_, ⟨⟨e, he, rfl⟩, -⟩, htext⟩
    exact ⟨e, he, htext⟩

/-- What is said about the rules is refused by a failure about its type exactly if one of its keys
is no text. -/
theorem isOf_of_rulesOf_eq_error {v : Value} {f : Failure} (h : rulesOf v = .error f) :
    f.IsOf "ValidationError" ∧ ¬v.HasUntextualKey ∨ f.IsOf "TypeError" ∧ v.HasUntextualKey := by
  by_cases hv : ∃ es, v = .dict es
  · obtain ⟨es, rfl⟩ := hv
    rw [hasUntextualKey_iff]
    simp only [rulesOf] at h
    generalize (es.map (·.1)).filter _ = unknown at h ⊢
    split at h
    · rename_i hempty
      obtain ⟨r, -, hr⟩ := Traversal.exists_of_mapM_eq_error h
      have hkind := isOf_of_ruleOf_eq_error (Traversal.map_eq_error_iff.mp hr)
      exact .inl ⟨hkind, by simp [List.isEmpty_iff.mp hempty]⟩
    · cases h
      by_cases htext : ∃ k ∈ unknown, k.isText = false
      · exact .inr ⟨isOf_unknownRules_of_untextual htext, htext⟩
      · refine .inl ⟨isOf_unknownRules_of_text fun k hk => ?_, htext⟩
        by_contra hk'
        exact htext ⟨k, hk, Bool.eq_false_iff.mpr hk'⟩
  · have huntextual : ¬v.HasUntextualKey := by
      cases v with
      | dict es => exact absurd ⟨es, rfl⟩ hv
      | _ => exact not_false
    rw [rulesOf_of_ne_dict fun es hes => hv ⟨es, hes⟩] at h
    split at h
    · cases h
      exact .inl ⟨.mk' _ _ _, huntextual⟩
    · cases h

theorem exists_rulesOf_eq_error {v : Value} (h : v.HasUntextualKey) :
    ∃ f, rulesOf v = .error f := by
  cases v with
  | dict es =>
    have hunknown : ¬((es.map (·.1)).filter fun k =>
        !RuleName.all.any fun r => (Value.str r.text).same k).isEmpty = true := by
      obtain ⟨k, hk, -⟩ := hasUntextualKey_iff.mp h
      intro hempty
      rw [List.isEmpty_iff.mp hempty] at hk
      cases hk
    simp only [rulesOf]
    rw [if_neg hunknown]
    exact ⟨_, rfl⟩
  | _ => exact h.elim

/-- A mapping that no policy is read from has a flaw, or an untextual name of a rule. -/
theorem isOf_of_ofValue_eq_error {es : List (Value × Value)} {f : Failure}
    (h : ofValue (.dict es) = .error f) :
    f.IsOf "ValidationError" ∧ (∀ said, Value.lookup (.str "rules") es = some said →
      ¬said.HasUntextualKey) ∨
    f.IsOf "TypeError" ∧ ∃ said, Value.lookup (.str "rules") es = some said ∧
      said.HasUntextualKey := by
  -- What the fields are refused with is always a flaw.
  have hflaw {cs} (hf : (ofEntries cs es).mapError Checked.failure = .error f) :
      f.IsOf "ValidationError" := by
    obtain ⟨fs, -, rfl⟩ := Traversal.mapError_eq_error_iff.mp hf
    exact .mk' _ _ _
  cases hsaid : Value.lookup (.str "rules") es with
  | none =>
    simp only [ofValue, hsaid] at h
    exact .inl ⟨hflaw h, fun _ hw => by cases hw⟩
  | some said =>
    simp only [ofValue, hsaid, Traversal.bind_eq_error_iff] at h
    rcases h with hrules | ⟨cs, hcs, hentries⟩
    · rcases isOf_of_rulesOf_eq_error hrules with ⟨hkind, hkey⟩ | ⟨hkind, hkey⟩
      · refine .inl ⟨hkind, fun w hw => ?_⟩
        cases hw
        exact hkey
      · exact .inr ⟨hkind, said, rfl, hkey⟩
    · refine .inl ⟨hflaw hentries, fun w hw hkey => ?_⟩
      cases hw
      obtain ⟨g, hg⟩ := exists_rulesOf_eq_error hkey
      rw [hcs] at hg
      cases hg

theorem exists_ofValue_eq_error {es : List (Value × Value)} {said : Value}
    (hsaid : Value.lookup (.str "rules") es = some said) (hkey : said.HasUntextualKey) :
    ∃ f, ofValue (.dict es) = .error f := by
  obtain ⟨f, hf⟩ := exists_rulesOf_eq_error hkey
  refine ⟨f, ?_⟩
  simp only [ofValue, hsaid, hf]
  rfl

end Policy

/-- What a mapping is refused with becomes a failure about a value, and other failures stay. -/
theorem Policy.refusedDocument_of_isOf (path : String) {f : Failure} :
    (f.IsOf "ValidationError" → (refusedDocument path f).IsOf "ValueError") ∧
    (f.kind ≠ "ValidationError" → refusedDocument path f = f) := by
  unfold refusedDocument
  constructor
  · intro h
    rw [h.kind, if_pos (by decide)]
    exact .mk' _ _ _
  · intro h
    simp [h]

namespace Policy

variable {fs : Files} {path : String} {v : Value}

/-- A document that names no rule untextually is refused by a failure about a value. -/
theorem isOf_of_load_eq_error (h : Holds fs path v) (hv : ¬NamesUntextually v) {f : Failure}
    (hf : load fs path = .error f) : f.IsOf "ValueError" := by
  by_cases hdict : ∃ es, v = .dict es
  · obtain ⟨es, rfl⟩ := hdict
    rw [load_of_dict h] at hf
    obtain ⟨g, hg, rfl⟩ := Traversal.mapError_eq_error_iff.mp hf
    rcases isOf_of_ofValue_eq_error hg with ⟨hkind, -⟩ | ⟨-, said, hsaid, hkey⟩
    · exact (refusedDocument_of_isOf _).1 hkind
    · exact absurd ⟨es, said, rfl, hsaid, hkey⟩ hv
  · rw [load_of_ne_dict h fun es hes => hdict ⟨es, hes⟩] at hf
    split at hf
    · cases hf
      exact .mk' _ _ _
    · cases hf

/-- One that does is refused by a failure about its type. -/
theorem exists_load_eq_error (h : Holds fs path v) (hv : NamesUntextually v) :
    ∃ f, load fs path = .error f ∧ f.IsOf "TypeError" := by
  obtain ⟨es, said, rfl, hsaid, hkey⟩ := hv
  obtain ⟨f, hf⟩ := exists_ofValue_eq_error hsaid hkey
  rcases isOf_of_ofValue_eq_error hf with ⟨-, hnone⟩ | ⟨hkind, -⟩
  · exact absurd hkey (hnone said hsaid)
  · refine ⟨f, ?_, hkind⟩
    have hstays : refusedDocument (fs.absolute path) f = f :=
      (refusedDocument_of_isOf _).2 (by rw [hkind.kind]; decide)
    rw [load_of_dict h, hf]
    exact congrArg Except.error hstays

end Policy

/-- A file that its check can read is refused by the check, or the policy is read from it. -/
theorem Command.givenPolicy_of_policyFile {fs : Files} {path : String} {v : Intake.Verdict}
    (h : Intake.policyFile fs (Path.normal path) = .ok v) :
    Command.givenPolicy fs (some path) = v.required >>= fun _ => Policy.load fs path := by
  change Intake.policyFile fs (Path.normal path) >>= (fun v => v.required >>= fun _ =>
    Policy.load fs path) = _
  rw [h]
  rfl

/-- The file of a document fails its check, or the policy is not read from it. -/
theorem Command.isOf_of_givenPolicy_eq_error {fs : Files} {path : String} {v : Value} {f : Failure}
    (h : Policy.Holds fs path v) (hf : Command.givenPolicy fs (some path) = .error f) :
    f.IsOf "ValidationFailure" ∨ f.IsOf "ValueError" ∨
      f.IsOf "TypeError" ∧ Policy.NamesUntextually v := by
  obtain ⟨verdict, hverdict⟩ := Policy.exists_policyFile h
  rw [Command.givenPolicy_of_policyFile hverdict] at hf
  rcases Traversal.bind_eq_error_iff.mp hf with hcheck | ⟨_, -, hload⟩
  · have hdemand := Traversal.map_eq_error_iff.mp hcheck
    unfold Intake.Verdict.demand at hdemand
    split at hdemand
    · cases hdemand
    · cases hdemand
      exact .inl (.mk' _ _ _)
  · by_cases hv : Policy.NamesUntextually v
    · obtain ⟨g, hg, hkind⟩ := Policy.exists_load_eq_error h hv
      rw [hload] at hg
      cases hg
      exact .inr (.inr ⟨hkind, hv⟩)
    · exact .inr (.inl (Policy.isOf_of_load_eq_error h hv hload))

/-- What is refused with a text is a usage error with that text, if it is handled. -/
theorem Ending.refusing_of_worded {f : Failure} (h : ∃ s, f.message = .ok s) (argument : String)
    (handled : Failure → Bool) : Ending.refusing argument handled f =
      if handled f then .usage (.invalid argument f.text) else .failed f := by
  obtain ⟨s, hs⟩ := h
  unfold refusing
  rw [hs, Failure.text_eq hs]

/-- A command reports the failure to read its policy, unless the policy names a rule
untextually. -/
theorem Command.policyFor_of_givenPolicy {fs : Files} {path : String} {v : Value} {f : Failure}
    (h : Policy.Holds fs path v) (hf : Command.givenPolicy fs (some path) = .error f)
    (selfTest : Bool) :
    Command.policyFor fs (some path) selfTest = .error (.usage (.invalid "--policy" f.text)) ∨
      Policy.NamesUntextually v ∧
        Command.policyFor fs (some path) selfTest = .error (.failed f) := by
  have hending : Command.policyFor fs (some path) selfTest =
      .error (.refusing "--policy" isValueFault f) := by
    unfold Command.policyFor
    rw [hf]
    rfl
  rw [hending]
  rcases Command.isOf_of_givenPolicy_eq_error h hf with hcheck | hvalue | ⟨htype, hv⟩
  · rw [Ending.refusing_of_worded hcheck.worded]
    exact .inl (congrArg Except.error (if_pos (hcheck.isA _)))
  · rw [Ending.refusing_of_worded hvalue.worded]
    exact .inl (congrArg Except.error (if_pos (hvalue.isA _)))
  · -- No command handles a failure about a type.
    have hfault : ¬isValueFault f = true := by
      unfold isValueFault
      rw [htype.isA]
      decide
    rw [Ending.refusing_of_worded htype.worded]
    exact .inr ⟨hv, congrArg Except.error (if_neg hfault)⟩

namespace Policy

/-- A policy is read from a document, or it is refused by a failure about a value, which a command
reports; unless the document names a rule by a key that is no text, which is always refused by a
failure about its type. -/
theorem load_or_refused (fs : Files) (path : String) (v : Value) (h : Holds fs path v) :
    (¬NamesUntextually v → (∃ p, load fs path = .ok p) ∨
      ∃ f, load fs path = .error f ∧ f.isA "ValueError" = true) ∧
    (NamesUntextually v →
      ∃ f, load fs path = .error f ∧ f.kind = "TypeError" ∧ f.isA "ValueError" = false) ∧
    ∀ f selfTest, Command.givenPolicy fs (some path) = .error f →
      Command.policyFor fs (some path) selfTest = .error (.usage (.invalid "--policy" f.text)) ∨
        NamesUntextually v ∧ Command.policyFor fs (some path) selfTest = .error (.failed f) := by
  refine ⟨fun hv => ?_, fun hv => ?_, fun f selfTest hf =>
    Command.policyFor_of_givenPolicy h hf selfTest⟩
  · cases hload : load fs path with
    | ok p => exact .inl ⟨p, rfl⟩
    | error f => exact .inr ⟨f, rfl, (isOf_of_load_eq_error h hv hload).isA _⟩
  · obtain ⟨f, hf, hkind⟩ := exists_load_eq_error h hv
    exact ⟨f, hf, hkind.kind, hkind.isA _⟩

/-- The policy beside the settings of other programs, with a truth value as the name of a rule. -/
theorem load_or_refused_nested :
    let document := "policy:\n  rules:\n    loops: true\n    on: true\n".toList
    let fs : Files := ⟨"/work", [(["p.yaml"], .file (document.map Char.toUInt8))]⟩
    ∃ f, load fs "p.yaml" = .error f ∧ f.kind = "TypeError" ∧ f.isA "ValueError" = false := by
  intro document fs
  have hholds : Holds fs "p.yaml" (.dict [(.str "policy", .dict [(.str "rules",
      .dict [(.str "loops", .bool true), (.bool true, .bool true)])])]) :=
    holds_of_ascii document (by simp [document]) (by decide +kernel) (by decide +kernel)
  refine (load_or_refused fs "p.yaml" _ hholds).2.1 ⟨_, _, rfl, rfl, ?_⟩
  exact ⟨(.bool true, .bool true), by simp, rfl⟩

/-- A rule named by a number is refused by a failure about its type, and no command handles it. -/
theorem load_untextual :
    let document := "rules:\n  1: true\n".toList
    let fs : Files := ⟨"/work", [(["policy.yaml"], .file (document.map Char.toUInt8))]⟩
    Holds fs "policy.yaml" (.dict [(.str "rules", .dict [(.int 1, .bool true)])]) ∧
    ¬((∃ p, load fs "policy.yaml" = .ok p) ∨
      ∃ f, load fs "policy.yaml" = .error f ∧ f.isA "ValueError" = true) ∧
    Command.policyFor fs (some "policy.yaml") false =
      .error (.failed (.type "sequence item 0: expected str instance, int found")) := by
  intro document fs
  have hholds : Holds fs "policy.yaml" (.dict [(.str "rules", .dict [(.int 1, .bool true)])]) :=
    holds_of_ascii document (by simp [document]) (by decide +kernel) (by decide +kernel)
  have hunknown : unknownRules [.int 1] =
      .type "sequence item 0: expected str instance, int found" := by decide +kernel
  have hload : load fs "policy.yaml" =
      .error (.type "sequence item 0: expected str instance, int found") := by
    have hvalue : ofValue (.dict (policyEntries
        [(.str "rules", .dict [(.int 1, .bool true)])])) = .error (unknownRules [.int 1]) := rfl
    rw [load_of_dict hholds, hvalue, hunknown]
    rfl
  have hgiven : Command.givenPolicy fs (some "policy.yaml") =
      .error (.type "sequence item 0: expected str instance, int found") := by
    obtain ⟨verdict, hverdict⟩ := exists_policyFile hholds
    have hchecked : verdict.isValid = true := by
      have hvalid : ((Intake.policyFile fs (Path.normal "policy.yaml")).map
          Intake.Verdict.isValid).toOption = some true := by decide +kernel
      rw [hverdict] at hvalid
      exact Option.some.inj hvalid
    have hrequired : verdict.required = .ok verdict := by
      unfold Intake.Verdict.required Intake.Verdict.demand
      rw [if_pos hchecked]
      rfl
    rw [Command.givenPolicy_of_policyFile hverdict]
    exact Traversal.bind_eq_error_iff.mpr (.inr ⟨_, hrequired, hload⟩)
  refine ⟨hholds, ?_, ?_⟩
  · rw [hload]
    rintro (⟨p, hp⟩ | ⟨f, hf, hvalue⟩)
    · cases hp
    · cases hf
      revert hvalue
      decide
  · unfold Command.policyFor
    rw [hgiven]
    rfl

end Policy

end Grader
