import Grader.Proofs.Failure
import Grader.Source.Encoding

/-!
Units of submission files. Whatever is wrong with a file, its unit is made and says so, unless the
file declares an encoding that does not encode text: that failure is not contained, and it keeps
the files beside it from being read.
-/

namespace Grader

open Source Encoding

variable {codecs : Codecs} {path : String} {f : Failure}

namespace Source.Encoding

/-- The bytes of a file declare an encoding that is known and does not encode text. -/
def DeclaresUntextual (codecs : Codecs) (file : String) (bytes : List UInt8) (name : String) :
    Prop :=
  detect codecs file (splitMark bytes).1 (splitMark bytes).2 = .ok name ∧
    codecs name = some .notText

theorem isOf_of_cookie_eq_error {marked : Bool} {line : List UInt8}
    (h : cookie codecs path marked line = .error f) : f.IsOf "SyntaxError" := by
  unfold cookie at h
  simp only at h
  split at h
  · cases h
    exact .mk' ..
  · split at h
    · cases h
    · split at h
      · cases h
        exact .mk' ..
      · split at h
        · cases h
          exact .mk' ..
        · cases h

/-- An encoding that cannot be made out is an error of the syntax of the file. -/
theorem isOf_of_detect_eq_error {marked : Bool} {bytes : List UInt8}
    (h : detect codecs path marked bytes = .error f) : f.IsOf "SyntaxError" := by
  unfold detect at h
  simp only at h
  split at h
  · cases h
  · rcases Traversal.bind_eq_error_iff.mp h with hfirst | ⟨declared, -, h⟩
    · exact isOf_of_cookie_eq_error hfirst
    · cases declared with
      | some name => cases h
      | none =>
        -- The second line counts only if the first declares nothing.
        simp only at h
        split_ifs at h
        · cases h
        · rcases Traversal.bind_eq_error_iff.mp h with hsecond | ⟨_, -, h⟩
          · exact isOf_of_cookie_eq_error hsecond
          · cases h

/-- Decoding fails about the bytes, or under an encoding that does not encode text. -/
theorem cause_of_decodeAs_eq_error {name : String} {bytes : List UInt8}
    (h : decodeAs codecs name bytes = .error f) :
    f.IsOf "UnicodeDecodeError" ∨ codecs name = some .notText ∧ f = untextual name := by
  unfold decodeAs at h
  cases hcodec : codecs name with
  | none =>
    rw [hcodec] at h
    obtain ⟨text, -, rfl⟩ := Traversal.mapError_eq_error_iff.mp h
    exact .inl (.mk' ..)
  | some codec =>
    rw [hcodec] at h
    cases codec with
    | text decode =>
      obtain ⟨text, -, rfl⟩ := Traversal.mapError_eq_error_iff.mp h
      exact .inl (.mk' ..)
    | notText =>
      cases h
      exact .inr ⟨rfl, rfl⟩

theorem readSource_of_declaresUntextual {bytes : List UInt8} {name : String}
    (h : DeclaresUntextual codecs path bytes name) :
    readSource codecs path bytes = .error (untextual name) := by
  obtain ⟨hname, hcodec⟩ := h
  refine Traversal.bind_eq_error_iff.mpr (.inr ⟨name, hname, ?_⟩)
  refine Traversal.bind_eq_error_iff.mpr (.inl ?_)
  unfold decodeAs
  rw [hcodec]
  rfl

/-- A file fails to be read by a fault of its syntax or of its bytes, or it declares an encoding
that does not encode text. -/
theorem cause_of_readSource_eq_error {bytes : List UInt8}
    (h : readSource codecs path bytes = .error f) :
    f.IsOf "SyntaxError" ∨ f.IsOf "UnicodeDecodeError" ∨
      ∃ name, DeclaresUntextual codecs path bytes name ∧ f = untextual name := by
  rcases Traversal.bind_eq_error_iff.mp h with hdetect | ⟨name, hname, h⟩
  · exact .inl (isOf_of_detect_eq_error hdetect)
  · rcases Traversal.bind_eq_error_iff.mp h with hdecode | ⟨_, -, h⟩
    · rcases cause_of_decodeAs_eq_error hdecode with hkind | ⟨hcodec, rfl⟩
      · exact .inr (.inl hkind)
      · exact .inr (.inr ⟨name, ⟨hname, hcodec⟩, rfl⟩)
    · cases h

end Source.Encoding

/-- The classes of the failures that reading a file contains, as far as they occur. -/
def readingKinds : List String :=
  ["SyntaxError", "UnicodeDecodeError", "ValueError", "FileNotFoundError", "FileExistsError",
    "NotADirectoryError", "IsADirectoryError"]

theorem isReadingFault_of_mem {name : String} (h : f.IsOf name) (hname : name ∈ readingKinds) :
    isReadingFault f = true := by
  have hkinds : ∀ name ∈ readingKinds, isReadingFault ⟨name, "", []⟩ = true := by decide
  unfold isReadingFault Failure.isA
  rw [h.cls]
  exact hkinds name hname

/-- A failure of opening or reading a file that its unit reports: it is contained and has a text. -/
structure IsReported (f : Failure) : Prop where
  fault : isReadingFault f = true
  worded : ∃ s, f.message = .ok s

theorem isReported_of_mem {name : String} (h : f.IsOf name) (hname : name ∈ readingKinds) :
    IsReported f :=
  ⟨isReadingFault_of_mem h hname, h.worded⟩

/-- What keeps a file of the tree from being opened is a fault that its unit reports. -/
theorem Files.isReported_of_opened {fs : Files} (h : fs.opened path = .error f) :
    IsReported f := by
  unfold Files.opened at h
  split at h
  · cases h
    exact isReported_of_mem (.mk' ..) (by decide : "ValueError" ∈ readingKinds)
  · obtain ⟨e, -, rfl⟩ := Traversal.mapError_eq_error_iff.mp h
    exact isReported_of_mem (.mk' ..) (by cases e <;> decide : e.kind ∈ readingKinds)

namespace SourceUnit

/-- The unit is parsed, or it has no nodes and says why. -/
def IsSettled (u : SourceUnit) : Prop :=
  u.parsable = true ∧ u.error = none ∨
    u.parsable = false ∧ u.nodes = [] ∧ ∃ text, u.error = some text ∧ text ≠ ""

theorem isSettled_rejected {message : String} {line column : Nat} (h : message ≠ "") :
    IsSettled ⟨path, .rejected message line column⟩ :=
  .inr ⟨rfl, rfl, message, rfl, h⟩

theorem isSettled_ofText (path text : String) (shown : Nat → Option (List Char)) :
    (ofText path text shown).path = path ∧ (ofText path text shown).IsSettled := by
  unfold ofText
  simp only
  split
  · exact ⟨rfl, isSettled_rejected (by decide)⟩
  · split
    · exact ⟨rfl, .inl ⟨rfl, rfl⟩⟩
    · exact ⟨rfl, isSettled_rejected (by simp)⟩

section Opened

variable {opened : Except Failure (List UInt8)} {shown : Nat → Option (List Char)}

theorem ofOpened_of_ok {text : List Char} (h : opened >>= readSource codecs path = .ok text) :
    ofOpened codecs path opened shown = .ok (ofText path (String.ofList text) shown) := by
  unfold ofOpened
  rw [h]

theorem ofOpened_of_fault {s : String} (h : opened >>= readSource codecs path = .error f)
    (hf : isReadingFault f = true) (hs : f.message = .ok s) :
    ofOpened codecs path opened shown =
      .ok ⟨path, .rejected s!"cannot read file: {s}" 1 1⟩ := by
  unfold ofOpened
  rw [h]
  simp only [hf, hs, if_true]
  rfl

theorem ofOpened_of_declaresUntextual {bytes : List UInt8} {name : String}
    (h : DeclaresUntextual codecs path bytes name) :
    ofOpened codecs path (.ok bytes) shown = .error (untextual name) := by
  have hread : Except.ok bytes >>= readSource codecs path = .error (untextual name) :=
    readSource_of_declaresUntextual h
  have hkind : ¬isReadingFault ⟨"LookupError", "", []⟩ = true := by decide
  unfold ofOpened
  rw [hread]
  exact if_neg hkind

/-- A file that declares no untextual encoding has a unit, whatever opening and reading it meets. -/
theorem exists_ofOpened (hopened : ∀ f, opened = .error f → IsReported f)
    (htext : ∀ bytes name, opened = .ok bytes → ¬DeclaresUntextual codecs path bytes name) :
    ∃ u, ofOpened codecs path opened shown = .ok u ∧ u.path = path ∧ u.IsSettled := by
  cases hread : opened >>= readSource codecs path with
  | ok text => exact ⟨_, ofOpened_of_ok hread, isSettled_ofText path _ shown⟩
  | error f =>
    have hreported : IsReported f := by
      rcases Traversal.bind_eq_error_iff.mp hread with hopen | ⟨bytes, hbytes, hread⟩
      · exact hopened f hopen
      · rcases cause_of_readSource_eq_error hread with hkind | hkind | ⟨name, hname, -⟩
        · exact isReported_of_mem hkind (by decide)
        · exact isReported_of_mem hkind (by decide)
        · exact absurd hname (htext bytes name hbytes)
    obtain ⟨s, hs⟩ := hreported.worded
    exact ⟨_, ofOpened_of_fault hread hreported.fault hs, rfl,
      isSettled_rejected (by simp [toString])⟩

end Opened

/-- Reading a file makes its unit, unless the file declares an encoding that is known and does not
encode text. -/
structure IsReading (codecs : Codecs) (path : String) (opened : Except Failure (List UInt8))
    (outcome : Except Failure SourceUnit) : Prop where
  unit (h : ∀ bytes name, opened = .ok bytes → ¬DeclaresUntextual codecs path bytes name) :
    ∃ u, outcome = .ok u ∧ u.path = path ∧ u.IsSettled
  failure (bytes : List UInt8) (name : String) (hopened : opened = .ok bytes)
    (h : DeclaresUntextual codecs path bytes name) : outcome = .error (untextual name)

theorem isReading_ofOpened {opened : Except Failure (List UInt8)}
    (hopened : ∀ f, opened = .error f → IsReported f)
    (shown : Nat → Option (List Char)) :
    IsReading codecs path opened (ofOpened codecs path opened shown) where
  unit h := exists_ofOpened hopened h
  failure bytes name hbytes h := by
    rw [hbytes]
    exact ofOpened_of_declaresUntextual h

theorem isReading_load (codecs : Codecs) (fs : Files) (path : String) :
    IsReading codecs path (fs.opened path) (load fs path codecs) :=
  isReading_ofOpened (fun _ => Files.isReported_of_opened) (fs.shownLine path)

theorem cause_of_load_eq_error {fs : Files} (h : load fs path codecs = .error f) :
    ∃ bytes name, fs.opened path = .ok bytes ∧ DeclaresUntextual codecs path bytes name ∧
      f = untextual name := by
  have hreading := isReading_load codecs fs path
  by_cases hdeclares : ∃ bytes name, fs.opened path = .ok bytes ∧
      DeclaresUntextual codecs path bytes name
  · obtain ⟨bytes, name, hopened, hname⟩ := hdeclares
    rw [hreading.failure bytes name hopened hname] at h
    exact ⟨bytes, name, hopened, hname, (Except.error.inj h).symm⟩
  · obtain ⟨u, hu, -⟩ := hreading.unit fun bytes name hopened hname =>
      hdeclares ⟨bytes, name, hopened, hname⟩
    rw [h] at hu
    cases hu

/-- The file at a path declares an encoding that is known and does not encode text. -/
def IsUntextual (codecs : Codecs) (fs : Files) (path : String) : Prop :=
  ∃ bytes name, fs.opened path = .ok bytes ∧ DeclaresUntextual codecs path bytes name

/-- Files have units, one for each and in their order, exactly if none of them declares an encoding
that does not encode text. -/
theorem exists_units_iff (codecs : Codecs) (fs : Files) (paths : List String) :
    (∃ us, paths.mapM (fun path => load fs path codecs) = .ok us ∧
      List.Forall₂ (fun path u => u.path = path ∧ u.IsSettled) paths us) ↔
    ∀ path ∈ paths, ¬IsUntextual codecs fs path := by
  constructor
  · rintro ⟨us, hus, -⟩ path hpath ⟨bytes, name, hbytes, hname⟩
    obtain ⟨u, hu⟩ := Traversal.exists_of_mapM_eq_ok hus path hpath
    rw [(isReading_load codecs fs path).failure bytes name hbytes hname] at hu
    cases hu
  · intro h
    refine Traversal.exists_mapM_of_forall fun path hpath => ?_
    exact (isReading_load codecs fs path).unit fun bytes name hbytes hname =>
      h path hpath ⟨bytes, name, hbytes, hname⟩

/-- Reading settles the unit of every file, whatever failure with a text keeps it from being opened
and whatever its bytes are, unless the file declares an encoding that is known and does not encode
text; so a list of files is read to the end exactly if none of them does so. -/
theorem load_unless_untextual (codecs : Codecs) :
    (∀ path opened shown, (∀ f, opened = .error f → IsReported f) →
      IsReading codecs path opened (ofOpened codecs path opened shown)) ∧
    (∀ fs path, IsReading codecs path (fs.opened path) (load fs path codecs)) ∧
    ∀ fs paths,
      (∃ us, paths.mapM (fun path => load fs path codecs) = .ok us ∧
        List.Forall₂ (fun path u => u.path = path ∧ u.IsSettled) paths us) ↔
      ∀ path ∈ paths, ¬IsUntextual codecs fs path :=
  ⟨fun _ _ shown hopened => isReading_ofOpened hopened shown, isReading_load codecs,
    exists_units_iff codecs⟩

/-- A file that may not be opened, and one whose last byte cannot be decoded. -/
theorem load_unless_untextual_undecodable :
    let denied : Failure := ⟨"PermissionError", "[Errno 13] Permission denied: 'a.py'", []⟩
    let fs : Files := ⟨"/work", [(["a.py"], .file [0x78, 0x0A, 0xE9])]⟩
    (∃ u, ofOpened known "a.py" (.error denied) (fun _ => none) = .ok u ∧ u.path = "a.py" ∧
      u.IsSettled) ∧
    ∃ u, load fs "a.py" = .ok u ∧ u.path = "a.py" ∧ u.IsSettled := by
  intro denied fs
  constructor
  · have hopened : ∀ f, Except.error (α := List UInt8) denied = .error f →
        IsReported f := by
      rintro f ⟨⟩
      exact ⟨by decide, _, rfl⟩
    exact ((load_unless_untextual known).1 "a.py" _ _ hopened).unit fun _ _ h => by cases h
  · refine ((load_unless_untextual known).2.1 fs "a.py").unit ?_
    rintro bytes name hopened ⟨hname, hcodec⟩
    have hbytes : fs.opened "a.py" = .ok [0x78, 0x0A, 0xE9] := by decide +kernel
    obtain rfl := Except.ok.inj (hbytes.symm.trans hopened)
    have hutf8 : detect known "a.py" false [0x78, 0x0A, 0xE9] = .ok "utf-8" := by decide +kernel
    obtain rfl := Except.ok.inj (hutf8.symm.trans hname)
    revert hcodec
    simp [known, spellings, spelling, utf8]

/-- The cipher is a known encoding and not one of texts, so a file that declares it has no unit, and
neither has the file behind it. -/
theorem load_rot13 :
    let fs : Files := ⟨"/work", [(["a.py"], .file ("# coding: rot13\n".toList.map Char.toUInt8)),
      (["b.py"], .file [])]⟩
    load fs "a.py" = .error (untextual "rot13") ∧
      ∀ us, ["a.py", "b.py"].mapM (fun path => load fs path) ≠ .ok us := by
  intro fs
  have hdeclares : DeclaresUntextual known "a.py" ("# coding: rot13\n".toList.map Char.toUInt8)
      "rot13" := ⟨by decide +kernel, by rfl⟩
  have hopened : fs.opened "a.py" = .ok ("# coding: rot13\n".toList.map Char.toUInt8) := by
    decide +kernel
  have hfail := (isReading_load known fs "a.py").failure _ _ hopened hdeclares
  refine ⟨hfail, fun us hus => ?_⟩
  obtain ⟨u, hu⟩ := Traversal.exists_of_mapM_eq_ok hus "a.py" List.mem_cons_self
  rw [hfail] at hu
  cases hu

end SourceUnit

end Grader
