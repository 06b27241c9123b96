import Grader.Intake
import Grader.Proofs.Files.Publish
import Grader.Proofs.Policy.Accepted
import Grader.Proofs.Text.Ascii
import Grader.Proofs.Text.Utf8

/-! Policy files: what is read from a file by what its document holds, and the text that is decoded
chunk by chunk, which is the text of the whole. -/

namespace Grader

/-- The mapping that a document stands for: its own, or an empty one where there is nothing. -/
def Value.mapping? : Value → Option (List (Value × Value))
  | .none => some []
  | .dict es => some es
  | _ => Option.none

theorem Intake.textOf_eq_ok_iff {bytes : List UInt8} {text : List Char} :
    textOf (.ok bytes) = .ok text ↔ Text.Utf8.decode bytes = .ok text :=
  Traversal.mapError_eq_ok_iff

namespace Policy

/-- What is decoded chunk by chunk is what is decoded at once. -/
theorem decode_of_decodeChunks {fuel : Nat} {pending bytes : List UInt8} {text : List Char}
    (hfuel : bytes.length < fuel) (h : decodeChunks fuel pending bytes = .ok text) :
    Text.Utf8.decode (pending ++ bytes) = .ok text := by
  induction fuel generalizing pending bytes text with
  | zero => cases hfuel
  | succ fuel ih =>
    rw [decodeChunks] at h
    by_cases hbytes : bytes = []
    · subst hbytes
      rw [List.append_nil]
      exact h
    · have hmore : ¬bytes.isEmpty = true := by simpa using hbytes
      have hrest : (bytes.drop chunkSize).length < fuel := by
        have hpos : 0 < bytes.length := List.length_pos_iff.mpr hbytes
        rw [List.length_drop]
        unfold chunkSize
        omega
      rw [if_neg hmore] at h
      split at h
      · rename_i cs hchunk
        obtain ⟨later, hlater, rfl⟩ := Traversal.map_eq_ok_iff.mp h
        have hjoined := Text.Utf8.decode_append hchunk (ih hrest hlater)
        rwa [List.nil_append, List.append_assoc, List.take_append_drop] at hjoined
      · rename_i f _
        split at h
        · split at h
          · rename_i cs hchunk
            -- The open sequence goes into the next chunk, so that nothing is lost between them.
            obtain ⟨later, hlater, rfl⟩ := Traversal.map_eq_ok_iff.mp h
            have hjoined := Text.Utf8.decode_append hchunk (ih hrest hlater)
            rwa [← List.append_assoc, List.take_append_drop, List.append_assoc,
              List.take_append_drop] at hjoined
          · cases h
        · cases h

/-- A chunk that ends inside a character leaves the open sequence to the next one, so that a text is
decoded wherever its bytes are cut. -/
theorem decodeChunks_of_decodes {fuel : Nat} {pending bytes : List UInt8} {text : List Char}
    (hfuel : bytes.length < fuel) (h : Text.Utf8.Decodes (pending ++ bytes) text) :
    decodeChunks fuel pending bytes = .ok text := by
  induction fuel generalizing pending bytes text with
  | zero => cases hfuel
  | succ fuel ih =>
    rw [decodeChunks]
    by_cases hbytes : bytes = []
    · subst hbytes
      rw [List.append_nil] at h
      exact Text.Utf8.decode_eq_ok_iff.mpr h
    · have hmore : ¬bytes.isEmpty = true := by simpa using hbytes
      have hrest : (bytes.drop chunkSize).length < fuel := by
        have hpos : 0 < bytes.length := List.length_pos_iff.mpr hbytes
        rw [List.length_drop]
        unfold chunkSize
        omega
      rw [if_neg hmore]
      rw [← List.take_append_drop chunkSize bytes, ← List.append_assoc] at h
      generalize pending ++ bytes.take chunkSize = chunk at h ⊢
      obtain ⟨closed, tail, cs, ds, rfl, rfl, hclosed, htail, hopen⟩ := h.split
      have hcs : Text.Utf8.decode closed = .ok cs := Text.Utf8.decode_eq_ok_iff.mpr hclosed
      rcases hopen with rfl | hopen
      · rw [List.append_nil, hcs]
        simp only [ih hrest htail]
        rfl
      · obtain ⟨f, hf, hfirst, hcount, hreason⟩ := Text.Utf8.decode_open hclosed hopen
        rw [hf]
        simp only [hfirst, hcount, hreason, List.length_append, List.take_left, List.drop_left, hcs,
          ih hrest htail]
        rfl

theorem decodeChunks_eq_ok_iff {bytes : List UInt8} {text : List Char} :
    decodeChunks (bytes.length + 2) [] bytes = .ok text ↔ Text.Utf8.decode bytes = .ok text :=
  ⟨fun h => decode_of_decodeChunks (by omega) h, fun h =>
    decodeChunks_of_decodes (by omega) (Text.Utf8.decode_eq_ok_iff.mp h)⟩

/-- The bytes of a file are the text of a document that has a value. -/
def HasDocument (bytes : List UInt8) (doc : Value) : Prop :=
  ∃ text, Text.Utf8.decode bytes = .ok text ∧ Yaml.load text = .ok doc

theorem HasDocument.unique {bytes : List UInt8} {doc doc' : Value} (h : HasDocument bytes doc)
    (h' : HasDocument bytes doc') : doc = doc' := by
  obtain ⟨text, htext, hdoc⟩ := h
  obtain ⟨text', htext', hdoc'⟩ := h'
  obtain rfl := Except.ok.inj (htext.symm.trans htext')
  exact Except.ok.inj (hdoc.symm.trans hdoc')

section Mapping

variable {fs : Files} {path : String} {bytes : List UInt8} {doc : Value}
  {es : List (Value × Value)}

/-- What is read from a file goes by its document: the mapping that it stands for, or an empty one for
what counts as false. -/
theorem readMapping_of_document (hread : fs.read path = .ok bytes) (h : HasDocument bytes doc) :
    readMapping fs path = doc.mapping?.elim (if doc.truthy then
      .error (.value s!"Expected mapping at root of {path}, received {doc.typeText}")
    else .ok []) .ok := by
  obtain ⟨text, hdecoded, hloaded⟩ := h
  unfold readMapping
  rw [hread]
  change (Except.mapError undecodable _ >>= _) = _
  rw [decodeChunks_eq_ok_iff.mpr hdecoded]
  change (Yaml.load text >>= _) = _
  rw [hloaded]
  cases doc <;> rfl

theorem readMapping_of_mapping (hread : fs.read path = .ok bytes) (h : HasDocument bytes doc)
    (hdoc : doc.mapping? = some es) : readMapping fs path = .ok es := by
  rw [readMapping_of_document hread h, hdoc]
  rfl

theorem exists_document_of_readMapping (hread : fs.read path = .ok bytes)
    (h : readMapping fs path = .ok es) : ∃ doc, HasDocument bytes doc := by
  obtain ⟨found, hfound, h⟩ := Traversal.bind_eq_ok_iff.mp h
  obtain rfl := Except.ok.inj (hread.symm.trans (Traversal.mapError_eq_ok_iff.mp hfound))
  obtain ⟨text, htext, h⟩ := Traversal.bind_eq_ok_iff.mp h
  obtain ⟨doc, hdoc, -⟩ := Traversal.bind_eq_ok_iff.mp h
  exact ⟨doc, text, decodeChunks_eq_ok_iff.mp (Traversal.mapError_eq_ok_iff.mp htext), hdoc⟩

end Mapping

/-- The file at a path can be read and decoded, and its text is the document of a value. -/
def Holds (fs : Files) (path : String) (v : Value) : Prop :=
  ∃ bytes text, fs.read (fs.absolute path) = .ok bytes ∧
    decodeChunks (bytes.length + 2) [] bytes = .ok text ∧ Yaml.load text = .ok v

section Load

variable {fs : Files} {path : String} {v : Value}

theorem holds_of_ascii (cs : List Char) (hcs : Text.IsAscii cs)
    (hread : fs.read (fs.absolute path) = .ok (cs.map Char.toUInt8))
    (hload : Yaml.load cs = .ok v) : Holds fs path v := by
  exact ⟨_, cs, hread, decodeChunks_eq_ok_iff.mpr (Text.Utf8.decode_ascii hcs), hload⟩

/-- The failure of a document that is no mapping. -/
def notMapping (fs : Files) (path : String) (v : Value) : Failure :=
  .value s!"Expected mapping at root of {fs.absolute path}, received {v.typeText}"

theorem load_of_readMapping {r : Except Failure (List (Value × Value))}
    (h : readMapping fs (fs.absolute path) = r) : load fs path = r >>= fun es =>
      (ofValue (.dict (policyEntries es))).mapError (refusedDocument (fs.absolute path)) := by
  subst h
  rfl

theorem Holds.exists_read (h : Holds fs path v) :
    ∃ bytes, fs.read (fs.absolute path) = .ok bytes ∧ HasDocument bytes v := by
  obtain ⟨bytes, text, hread, hdecoded, hloaded⟩ := h
  exact ⟨bytes, hread, text, decodeChunks_eq_ok_iff.mp hdecoded, hloaded⟩

theorem load_of_dict {es : List (Value × Value)} (h : Holds fs path (.dict es)) :
    load fs path =
      (ofValue (.dict (policyEntries es))).mapError (refusedDocument (fs.absolute path)) := by
  obtain ⟨bytes, hread, hdoc⟩ := h.exists_read
  exact load_of_readMapping (readMapping_of_mapping hread hdoc rfl)

/-- A document that is no mapping gives the default policy if it counts as false. -/
theorem load_of_ne_dict (h : Holds fs path v) (hv : ∀ es, v ≠ .dict es) :
    load fs path = if v.truthy then .error (notMapping fs path v) else .ok .standard := by
  have hmapping : readMapping fs (fs.absolute path) =
      if v.truthy then .error (notMapping fs path v) else .ok [] := by
    obtain ⟨bytes, hread, hdoc⟩ := h.exists_read
    rw [readMapping_of_document hread hdoc]
    cases v with
    | dict es => exact absurd rfl (hv es)
    | _ => rfl
  have hdefault : ofValue (.dict (policyEntries [])) = .ok .standard :=
    ofValue_eq_ok_iff.mpr ⟨fun _ he => absurd he List.not_mem_nil, .absent, fun _ => rfl, rfl, rfl,
      rfl, rfl, rfl⟩
  rw [load_of_readMapping hmapping]
  split
  · rfl
  · exact congrArg (Except.mapError (refusedDocument (fs.absolute path))) hdefault

/-- The check of a policy file comes to a verdict if the file holds the document of a value: it reads
the same text. -/
theorem exists_policyFile (h : Holds fs path v) :
    ∃ verdict, Intake.policyFile fs (Path.normal path) = .ok verdict := by
  obtain ⟨bytes, hread, text, hdecoded, hloaded⟩ := h.exists_read
  rw [← Files.absolute_normal] at hread
  unfold Intake.policyFile Files.sight
  split
  · rename_i found hfound
    obtain rfl := Files.read_absolute_of_lookup hfound hread
    have htext := Intake.textOf_eq_ok_iff.mpr hdecoded
    unfold Intake.judgePolicy Intake.opened
    simp only [htext, hloaded]
    exact ⟨_, rfl⟩
  · exact ⟨_, rfl⟩
  · exact ⟨_, rfl⟩

end Load

end Policy

end Grader
