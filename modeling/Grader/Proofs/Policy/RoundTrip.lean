import Grader.Proofs.Files.Publish
import Grader.Proofs.Policy.Document
import Grader.Proofs.Policy.Entries
import Grader.Proofs.Value.Identity
import Grader.Proofs.Yaml.Ascii

/-! Policies that are given away and taken back: as a mapping, by a change of nothing, and through a
file. A policy comes back the same if its names are trimmed, as those are that are read. -/

namespace Grader.Policy

variable (p : Policy)

/-- The names of a policy are not empty and have no blanks around them. -/
def HasTrimmedNames : Prop := ∀ l, ∀ s ∈ p.lists l, Text.isTrimmed s = true

theorem strippedNames_of_trimmed {names : List String} (h : ∀ s ∈ names, Text.isTrimmed s = true) :
    Value.strippedNames (names.map .str) = names := by
  induction names with
  | nil => rfl
  | cons s names ih =>
    obtain ⟨hs, hnames⟩ := List.forall_mem_cons.mp h
    have hstrip : Text.strip s = s := by simpa using (Bool.and_eq_true_iff.mp hs).2
    have hne : s ≠ "" := by simpa using (Bool.and_eq_true_iff.mp hs).1
    have hrest := ih hnames
    unfold Value.strippedNames at hrest ⊢
    rw [List.map_cons, List.filterMap_cons_some (b := s), hrest]
    simp [hstrip, hne]

/-- A policy is read back from its entries, with the names in lists or in tuples. -/
theorem ofValue_entriesAs {sequence : List Value → Value} (hp : p.HasTrimmedNames)
    (hsequence : ∀ xs, Value.readNames (sequence xs) = .ok (Value.strippedNames xs)) :
    ofValue (.dict (p.entriesAs sequence)) = .ok p := by
  have hreset : p.reset p.rules = p := by
    have hlists : p.reread = p.lists := funext fun l => strippedNames_of_trimmed (hp l)
    unfold reset
    rw [hlists]
  have hread := p.readFrom_reset hsequence rfl p.settlesRules_entriesAs fun _ _ => rfl
  rw [hreset] at hread
  exact ofValue_eq_ok_iff.mpr hread

theorem ofValue_toValue (hp : p.HasTrimmedNames) : ofValue p.toValue = .ok p := by
  unfold toValue
  rw [← entriesAs_list]
  exact p.ofValue_entriesAs hp fun _ => rfl

theorem withOverrides_nil (hp : p.HasTrimmedNames) : p.withOverrides [] = .ok p :=
  congrArg (Except.mapError (refusedChanges [])) (p.ofValue_toValue hp)

open Yaml in
theorem isDocument_toValue : IsDocument p.toValue := by
  have hsettings (r : RuleName) : IsDocument (p.rules r).toValue := by
    refine .entries ?_ ?_
    · simp [Value.ofSettings, IsScalar]
    · simpa [Value.ofSettings] using ⟨.scalar trivial, .scalar trivial, .scalar trivial⟩
  have hrules : IsDocument (.dict p.rulesValue) := by
    refine .entries ?_ ?_ <;> unfold rulesValue
    · simp [IsScalar]
    · simp [hsettings]
  have hlist (l : NameList) : IsDocument (.list ((p.lists l).map .str)) :=
    .items (by simp [IsScalar])
  refine .entries ?_ ?_ <;> unfold entries
  · simp [IsScalar, or_imp, forall_and]
  · simpa [hrules, hlist, or_imp, forall_and] using ⟨.scalar trivial, .scalar trivial,
      .scalar trivial, .scalar trivial, .scalar trivial⟩

/-- The document of a policy is not taken for one that holds a policy beside other settings. -/
theorem policyEntries_entries : policyEntries p.entries = p.entries := by
  have hnone : Value.lookup (.str "policy") p.entries = none := by
    unfold entries NameList.all
    simp only [NameList.text, List.map_cons, List.map_nil, List.cons_append, List.nil_append,
      Value.lookup_cons, String.reduceEq, ↓reduceIte]
    rfl
  unfold policyEntries
  rw [hnone]

/-- A policy is read back from the file that it was written to, if its document is read as the
mapping that it was written of. -/
theorem load_of_dump {fs fs' : Files} {path : String} (hp : p.HasTrimmedNames)
    (hyaml : Yaml.load p.document.toList = .ok p.toValue) (hfs : fs.Grounded)
    (hdump : p.dump fs path = .ok fs') : load fs' path = .ok p := by
  -- The document is ASCII, so that it is decoded in chunks to what was encoded.
  have hascii : Text.IsAscii p.document.toList := Yaml.isAscii_write p.isDocument_toValue
  have hbytes : Text.Utf8.encode p.document = p.document.toList.map Char.toUInt8 := by
    rw [← Text.Utf8.encode_of_ascii hascii, String.ofList_toList]
  have hread : fs'.read (fs'.absolute path) = .ok (p.document.toList.map Char.toUInt8) := by
    rw [← hbytes]
    exact Files.read_absolute_of_publish hfs hdump
  have hholds : Holds fs' path (.dict p.entries) := holds_of_ascii _ hascii hread hyaml
  rw [load_of_dict hholds, policyEntries_entries]
  exact congrArg (Except.mapError (refusedDocument (fs'.absolute path))) (p.ofValue_toValue hp)

/-- A policy with trimmed names is what is read from its mapping, with the names in lists or in
tuples, what a change of nothing makes of it, and what is read from the file that it was written to,
as long as its document is read as the mapping that it was written of. -/
theorem reads_back (p : Policy) (hp : p.HasTrimmedNames) :
    (∀ sequence ∈ [Value.list, Value.tuple], ofValue (.dict (p.entriesAs sequence)) = .ok p) ∧
    p.withOverrides [] = .ok p ∧
    (Yaml.load p.document.toList = .ok p.toValue → ∀ (fs fs' : Files) (path : String),
      fs.Grounded → p.dump fs path = .ok fs' → load fs' path = .ok p) := by
  refine ⟨fun sequence hsequence => ?_, p.withOverrides_nil hp, ?_⟩
  · have hread : ∀ s ∈ [Value.list, Value.tuple], ∀ xs,
        Value.readNames (s xs) = .ok (Value.strippedNames xs) := by simp [Value.readNames]
    exact p.ofValue_entriesAs hp (hread sequence hsequence)
  · intro hyaml fs fs' path hfs hdump
    exact p.load_of_dump hp hyaml hfs hdump

/-- A policy with a rule that counts once, a name that is there twice and one that must be quoted,
in a directory that is made for it. -/
theorem reads_back_quoted :
    let p : Policy :=
      { rules := fun r => if r = .loops then ⟨true, 3, false⟩ else r.settings
        lists := fun l => if l = .allowedImports then ["math", "math", "a: b"] else []
        maxScore := 7 }
    let fs : Files := ⟨"/work", []⟩
    p.HasTrimmedNames ∧ Yaml.load p.document.toList = .ok p.toValue ∧
      ofValue (.dict (p.entriesAs .tuple)) = .ok p ∧ p.withOverrides [] = .ok p ∧
      ∃ fs', p.dump fs "out/p.yaml" = .ok fs' ∧ load fs' "out/p.yaml" = .ok p := by
  intro p fs
  have hp : p.HasTrimmedNames := by
    intro l
    cases l <;> decide
  have hyaml : Yaml.load p.document.toList = .ok p.toValue := by
    have htext : p.document.toList =
        (Yaml.writeEntries 0 { column := 0 } p.entries).back.reverse := String.toList_ofList
    rw [htext]
    decide +kernel
  have hfs : fs.Grounded := ⟨by decide +kernel, by decide +kernel⟩
  obtain ⟨fs', hdump⟩ : ∃ fs', p.dump fs "out/p.yaml" = .ok fs' := by
    have hpath : ¬(Path.normal "out/p.yaml").contains '\x00' = true := by
      rw [String.contains_char_eq]
      decide +kernel
    have hok : (p.dump fs "out/p.yaml").isOk = true := by
      unfold dump Files.publish
      simp only
      rw [if_neg hpath]
      decide +kernel
    cases hdump : p.dump fs "out/p.yaml" with
    | ok fs' => exact ⟨fs', rfl⟩
    | error f =>
      rw [hdump] at hok
      cases hok
  obtain ⟨hvalue, hchange, hfile⟩ := reads_back p hp
  exact ⟨hp, hyaml, hvalue _ (by simp), hchange, fs', hdump,
    hfile hyaml fs fs' _ hfs hdump⟩

end Grader.Policy
