import Grader.Proofs.Intake.Verdict
import Grader.Proofs.Policy.Document
import Grader.Proofs.Value.Identity

/-! Policy files as their check and their reader take them. Both go by the document of the file:
they accept the same mappings, and an empty document is an empty mapping for both. A document that counts
as false without being a mapping is what they differ on. -/

namespace Grader

/-- No mapping and not nothing, and yet counting as false: an empty list, a zero, an empty text. -/
def Value.IsHollow (v : Value) : Prop := v.mapping? = Option.none ∧ v.truthy = false

/-- The check of a policy file has no error and finds a mapping. -/
def Intake.Accepts (fs : Files) (path : String) (es : List (Value × Value)) : Prop :=
  ∃ v, policyFile fs path = .ok v ∧ v.errors = [] ∧ v.content = some (.mapping es)

namespace Intake

section Document

variable {path : String} {warnings : List Warning} {doc : Value} {es : List (Value × Value)}

theorem ofDocument_of_mapping (h : doc.mapping? = some es) :
    (ofDocument path warnings doc).errors = [] ∧
      (ofDocument path warnings doc).content = some (.mapping es) := by
  cases doc with
  | none | dict =>
    cases h
    exact ⟨rfl, rfl⟩
  | _ => cases h

theorem ofDocument_of_not_mapping (h : doc.mapping? = none) :
    (ofDocument path warnings doc).errors = [.notMapping path doc.typeName] := by
  cases doc with
  | none | dict => cases h
  | _ => rfl

end Document

section Policy

variable {fs : Files} {path : String} {bytes : List UInt8} {doc : Value} {v : Verdict}
  {es : List (Value × Value)}

theorem policyFile_of_read (hread : fs.read (Path.normal path) = .ok bytes) :
    policyFile fs path = judgePolicy path (.file (.ok bytes.head?) (.ok bytes)) := by
  have hsight : fs.sight (Path.normal path) = .file (.ok bytes.head?) (.ok bytes) := by
    unfold Files.read at hread
    unfold Files.sight
    cases hlookup : fs.lookup (Path.normal path) with
    | error e =>
      rw [hlookup] at hread
      cases hread
    | ok entry =>
      rw [hlookup] at hread
      cases entry with
      | file contents =>
        cases hread
        rfl
      | directory => cases hread
  unfold policyFile
  rw [hsight]

/-- The check of a file that can be read goes by its document. -/
theorem exists_policyFile_of_document (hread : fs.read (Path.normal path) = .ok bytes)
    (h : Policy.HasDocument bytes doc) :
    ∃ warnings, policyFile fs path = .ok (ofDocument path warnings doc) := by
  obtain ⟨text, hdecoded, hloaded⟩ := h
  refine ⟨if bytes.head?.isNone then [.empty (Path.normal path)] else [], ?_⟩
  rw [policyFile_of_read hread]
  unfold judgePolicy opened
  simp only [textOf_eq_ok_iff.mpr hdecoded, hloaded]

/-- A file that can be read and is accepted has a document. -/
theorem exists_document_of_policyFile (hread : fs.read (Path.normal path) = .ok bytes)
    (h : policyFile fs path = .ok v) (hv : v.errors = []) :
    ∃ doc, Policy.HasDocument bytes doc := by
  rw [policyFile_of_read hread] at h
  unfold judgePolicy opened at h
  simp only at h
  split at h
  · cases h
    cases hv
  · rename_i text htext
    split at h
    · split at h
      · cases h
        cases hv
      · cases h
    · rename_i doc hdoc
      exact ⟨doc, text, textOf_eq_ok_iff.mp htext, hdoc⟩

theorem accepts_of_mapping (hread : fs.read (Path.normal path) = .ok bytes)
    (h : Policy.HasDocument bytes doc) (hdoc : doc.mapping? = some es) : Accepts fs path es := by
  obtain ⟨warnings, hv⟩ := exists_policyFile_of_document hread h
  exact ⟨_, hv, ofDocument_of_mapping hdoc⟩

/-- Only a document that stands for a mapping is accepted. -/
theorem mapping_of_policyFile (hread : fs.read (Path.normal path) = .ok bytes)
    (h : policyFile fs path = .ok v) (hv : v.errors = []) :
    ∃ doc es, Policy.HasDocument bytes doc ∧ doc.mapping? = some es ∧
      v.content = some (.mapping es) := by
  obtain ⟨doc, hdoc⟩ := exists_document_of_policyFile hread h hv
  obtain ⟨warnings, hgiven⟩ := exists_policyFile_of_document hread hdoc
  obtain rfl := Except.ok.inj (hgiven.symm.trans h)
  cases hmapping : doc.mapping? with
  | none =>
    rw [ofDocument_of_not_mapping hmapping] at hv
    cases hv
  | some es => exact ⟨doc, es, hdoc, hmapping, (ofDocument_of_mapping hmapping).2⟩

end Policy

/-- For every file that can be read: its check accepts the mapping that its reader gives, and no
other, unless the document is hollow. The reader takes such a document for an empty mapping, and the
check rejects it; everything else that is no mapping is rejected by both, with the type of its root,
and a mapping is found by both, an empty one where there is nothing. -/
theorem accepts_iff_reads (fs : Files) (path : String) (bytes : List UInt8)
    (hread : fs.read (Path.normal path) = .ok bytes) :
    (∀ es, Accepts fs path es ↔ Policy.readMapping fs (Path.normal path) = .ok es ∧
      ∀ doc, Policy.HasDocument bytes doc → ¬doc.IsHollow) ∧
    (∀ v, policyFile fs path = .ok v → v.errors = [] → ∃ es, Accepts fs path es) ∧
    ∀ doc, Policy.HasDocument bytes doc →
      (∀ es, doc.mapping? = some es →
        Accepts fs path es ∧ Policy.readMapping fs (Path.normal path) = .ok es) ∧
      (doc.mapping? = none →
        (∃ v, policyFile fs path = .ok v ∧ v.errors = [.notMapping path doc.typeName]) ∧
        Policy.readMapping fs (Path.normal path) = if doc.truthy then
          .error (.value
            s!"Expected mapping at root of {Path.normal path}, received {doc.typeText}")
        else .ok []) := by
  refine ⟨fun es => ⟨?_, ?_⟩, fun v hv hvalid => ?_,
    fun doc hdoc => ⟨fun es hes => ?_, fun hnone => ?_⟩⟩
  · rintro ⟨v, hv, hvalid, hcontent⟩
    obtain ⟨doc, es', hdoc, hes, hfound⟩ := mapping_of_policyFile hread hv hvalid
    cases hcontent.symm.trans hfound
    refine ⟨Policy.readMapping_of_mapping hread hdoc hes, fun other hother hhollow => ?_⟩
    obtain rfl := hdoc.unique hother
    cases hes.symm.trans hhollow.1
  · rintro ⟨hes, hhollow⟩
    obtain ⟨doc, hdoc⟩ := Policy.exists_document_of_readMapping hread hes
    cases hmapping : doc.mapping? with
    | some es' =>
      have hes' := Policy.readMapping_of_mapping hread hdoc hmapping
      obtain rfl := Except.ok.inj (hes'.symm.trans hes)
      exact accepts_of_mapping hread hdoc hmapping
    | none =>
      -- What is no mapping is read only if it counts as false.
      rw [Policy.readMapping_of_document hread hdoc, hmapping, Option.elim_none] at hes
      split at hes
      · cases hes
      · rename_i hfalse
        exact absurd ⟨hmapping, Bool.eq_false_iff.mpr hfalse⟩ (hhollow doc hdoc)
  · obtain ⟨doc, es, hdoc, hes, -⟩ := mapping_of_policyFile hread hv hvalid
    exact ⟨es, accepts_of_mapping hread hdoc hes⟩
  · exact ⟨accepts_of_mapping hread hdoc hes, Policy.readMapping_of_mapping hread hdoc hes⟩
  · obtain ⟨warnings, hv⟩ := exists_policyFile_of_document hread hdoc
    refine ⟨⟨_, hv, ofDocument_of_not_mapping hnone⟩, ?_⟩
    rw [Policy.readMapping_of_document hread hdoc, hnone]
    rfl

/-- A file with one setting, named with a needless step. -/
theorem accepts_iff_reads_setting :
    let document := "max_score: 5\n".toList
    let fs : Files := ⟨"/work", [(["p.yaml"], .file (document.map Char.toUInt8))]⟩
    Accepts fs "./p.yaml" [(.str "max_score", .int 5)] ∧
      Policy.readMapping fs "p.yaml" = .ok [(.str "max_score", .int 5)] := by
  intro document fs
  have hnormal : Path.normal "./p.yaml" = "p.yaml" := by decide +kernel
  have hread : fs.read (Path.normal "./p.yaml") = .ok (document.map Char.toUInt8) := by
    decide +kernel
  have hdoc : Policy.HasDocument (document.map Char.toUInt8)
      (.dict [(.str "max_score", .int 5)]) :=
    ⟨document, by decide +kernel, by decide +kernel⟩
  obtain ⟨haccepts, hreads⟩ := ((accepts_iff_reads fs _ _ hread).2.2 _ hdoc).1 _ rfl
  exact ⟨haccepts, hnormal ▸ hreads⟩

/-- An empty list is read as an empty mapping, and the check rejects it. -/
theorem reads_rejected_list :
    let document := "[]\n".toList
    let fs : Files := ⟨"/work", [(["policy.yaml"], .file (document.map Char.toUInt8))]⟩
    Policy.HasDocument (document.map Char.toUInt8) (.list []) ∧
    ¬((∃ v, policyFile fs "policy.yaml" = .ok v ∧ v.errors = []) ↔
      ∃ es, Policy.readMapping fs "policy.yaml" = .ok es) := by
  intro document fs
  have hnormal : Path.normal "policy.yaml" = "policy.yaml" := by decide +kernel
  have hread : fs.read (Path.normal "policy.yaml") = .ok (document.map Char.toUInt8) := by
    decide +kernel
  have hdoc : Policy.HasDocument (document.map Char.toUInt8) (.list []) :=
    ⟨document, by decide +kernel, by decide +kernel⟩
  obtain ⟨warnings, hv⟩ := exists_policyFile_of_document hread hdoc
  have hreads : Policy.readMapping fs "policy.yaml" = .ok [] :=
    Policy.readMapping_of_document (hnormal ▸ hread) hdoc
  refine ⟨hdoc, fun hiff => ?_⟩
  obtain ⟨v, hgiven, hvalid⟩ := hiff.mpr ⟨[], hreads⟩
  obtain rfl := Except.ok.inj (hv.symm.trans hgiven)
  cases hvalid

end Intake

end Grader
