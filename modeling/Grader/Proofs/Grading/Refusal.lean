import Grader.Proofs.Grading.Loading

/-!
References to checks that are refused. A dotted target is looked up inside the packages around it,
which are imported first; what one of them raises is not told apart from the failure to find a
module. Every other refusal says that the reference leads nowhere, or comes from a module that fails
by a failure that ends the whole process or that cannot be described.
-/

namespace Grader.Importer

variable {i : Importer} {reference target name : String} {segments : List String} {f : Failure}

/-- A package raises a failure while it is imported, among those of a name, the last segment of
which comes first: its file is found in the package around it, which has been imported. -/
inductive RaisesAlong (i : Importer) (f : Failure) : List String → Prop
  | here {last : String} {outer places : List String} {file : String}
      {inner : Option (List String)} (imported : i.importPackage outer = .ok (some places))
      (found : i.find last [] places = some ⟨some file, inner⟩)
      (raises : i.moduleAt file = .raises f) : RaisesAlong i f (last :: outer)
  | within {last : String} {outer : List String} (h : RaisesAlong i f outer) :
      RaisesAlong i f (last :: outer)

/-- The segments of a dotted name, the last one first. -/
def segmentsOf (name : String) : List String :=
  ((Text.Dotted.components name.toList).map String.ofList).reverse

/-- One of the packages around a dotted name raises a failure while it is imported. -/
def PackageRaises (i : Importer) (name : String) (f : Failure) : Prop :=
  ∃ last outer, segmentsOf name = last :: outer ∧ i.RaisesAlong f outer

/-- What a package raises ends the import of every module inside it. -/
theorem importPackage_of_raisesAlong (h : i.RaisesAlong f segments) :
    i.importPackage segments = .error f := by
  -- Along the name: once a package raises, nothing further inside is looked for.
  induction h with
  | here imported found raises =>
    rw [importPackage, imported]
    simp only [found]
    unfold execute
    simp only [raises]
    rfl
  | within _ ih => rw [importPackage, ih]

/-- The import of packages fails because one is not there or because one raises. -/
theorem cause_of_importPackage_eq_error (h : i.importPackage segments = .error f) :
    f.IsOf "ModuleNotFoundError" ∨ i.RaisesAlong f segments := by
  induction segments with
  | nil => cases h
  | cons last outer ih =>
    rw [importPackage] at h
    split at h
    · -- The packages around this one are imported first, and their failure is passed on as it is.
      rename_i houter
      cases h
      exact (ih houter).imp_right .within
    · cases h
      exact .inl (.mk' ..)
    · rename_i places himported
      split at h
      · cases h
        exact .inl (.mk' ..)
      · rename_i m hfound
        have hraised : i.execute m = .error f := Traversal.map_eq_error_iff.mp h
        obtain ⟨file, inner⟩ := m
        cases file with
        | none => cases hraised
        | some file =>
          change (i.moduleAt file).execute = .error f at hraised
          cases hmodule : i.moduleAt file with
          | defines exports =>
            rw [hmodule] at hraised
            cases hraised
          | raises g =>
            rw [hmodule] at hraised
            cases hraised
            exact .inr (.here himported hfound hmodule)

/-- The classes of the failures about references that lead nowhere. -/
def referenceKinds : List String :=
  ["FileNotFoundError", "ValueError", "ImportError", "ModuleNotFoundError"]

/-- The failure says that a reference leads nowhere. -/
def LeadsNowhere (f : Failure) : Prop := ∃ name ∈ referenceKinds, f.IsOf name

theorem LeadsNowhere.mk' {name : String} (s : String) (h : name ∈ referenceKinds) :
    LeadsNowhere ⟨name, s, []⟩ := ⟨name, h, .mk' ..⟩

theorem cause_of_locate_eq_error (h : i.locate name = .error f) :
    LeadsNowhere f ∨ i.PackageRaises name f := by
  have himport {text : String} : LeadsNowhere (missing text) := .mk' text (by decide)
  unfold locate at h
  split at h
  · cases h
    exact .inl (.mk' _ (by decide))
  · split at h
    · cases h
      exact .inl himport
    · rename_i last outer hsegments
      split at h
      · rename_i hpackage
        cases h
        rcases cause_of_importPackage_eq_error hpackage with hmissing | hraises
        · exact .inl ⟨_, by decide, hmissing⟩
        · exact .inr ⟨last, outer, hsegments, hraises⟩
      · cases h
        exact .inl himport
      · split at h
        · cases h
          exact .inl himport
        · cases h

theorem isOf_of_registryOf_eq_error {r : Reference} {e : Option Export}
    (h : registryOf r e = .error f) : f.IsOf "ValueError" := by
  have hchecks {checks : List (Check Script)} (h : Registry.ofChecks checks = .error f) :
      f.IsOf "ValueError" := by
    obtain ⟨registry, c, -, htaken⟩ := Traversal.exists_of_foldlM_eq_error h
    unfold Registry.register at htaken
    split at htaken
    · cases htaken
      exact .mk' ..
    · cases htaken
  unfold registryOf at h
  split at h
  · cases h
    exact .mk' ..
  · cases h
    exact .mk' ..
  · cases h
  · exact hchecks h
  · exact hchecks h
  · split at h
    · cases h
    · cases h
    · cases h
      exact .mk' ..

theorem ofCause_eq_refused_iff {g : Failure} :
    LoadError.ofCause reference g = .refused f ↔ g.contained = .error f := by
  unfold LoadError.ofCause
  cases g.contained <;> simp

/-- A module is refused while it is executed only by what no handler makes a description of. -/
theorem cause_of_run_eq_refused {exports : Except Failure (List (String × Export))}
    (h : run reference exports = .error (.refused f)) :
    ∃ g, exports = .error g ∧ g.contained = .error f := by
  obtain ⟨g, hexports, hg⟩ := Traversal.mapError_eq_error_iff.mp h
  exact ⟨g, hexports, ofCause_eq_refused_iff.mp hg.symm⟩

/-- A module fails while it is executed, and a failure leaves the handler that would describe it. -/
def ModuleEscapes (i : Importer) (f : Failure) : Prop :=
  ∃ file g, i.moduleAt file = .raises g ∧ g.contained = .error f

theorem moduleEscapes_of_run {file : String}
    (h : run reference (i.moduleAt file).execute = .error (.refused f)) : i.ModuleEscapes f := by
  obtain ⟨g, hraised, hg⟩ := cause_of_run_eq_refused h
  cases hmodule : i.moduleAt file with
  | defines exports =>
    rw [hmodule] at hraised
    cases hraised
  | raises g' =>
    rw [hmodule] at hraised
    cases hraised
    exact ⟨file, g, hmodule, hg⟩

/-- A reference is refused because it leads nowhere, because a package around its target raises, or
by what leaves the execution of a module. -/
theorem cause_of_load_eq_refused (h : i.load reference = .error (.refused f)) :
    LeadsNowhere f ∨ i.PackageRaises (Reference.ofText reference).target f ∨
      i.ModuleEscapes f := by
  rcases Traversal.bind_eq_error_iff.mp h with hmodule | ⟨exports, -, hregistry⟩
  · unfold loadModule at hmodule
    split at hmodule
    · -- A file is executed alone, so that no package comes into it.
      unfold loadFile at hmodule
      simp only at hmodule
      split at hmodule
      · cases hmodule
        exact .inl (.mk' _ (by decide))
      · split at hmodule
        · cases hmodule
          exact .inl (.mk' _ (by decide))
        · exact .inr (.inr (moduleEscapes_of_run hmodule))
    · unfold loadNamed at hmodule
      split at hmodule
      · rename_i hlocate
        cases hmodule
        rcases cause_of_locate_eq_error hlocate with hnowhere | hraises
        · exact .inl hnowhere
        · exact .inr (.inl hraises)
      · rename_i m hlocate
        obtain ⟨file, places⟩ := m
        cases file with
        | none => cases hmodule
        | some file => exact .inr (.inr (moduleEscapes_of_run hmodule))
  · obtain ⟨g, hg, hfg⟩ := Traversal.mapError_eq_error_iff.mp hregistry
    cases hfg
    exact .inl ⟨_, by decide, isOf_of_registryOf_eq_error hg⟩

/-- What a package around the target raises refuses the reference, where the target is the name of a
module. -/
theorem load_of_packageRaises
    (hpath : ¬(Reference.ofText reference).target.endsWith ".py" = true ∧
      ¬i.files.isFile (Path.normal (Reference.ofText reference).target) = true)
    (hrelative : ¬(Reference.ofText reference).target.startsWith "." = true)
    (h : i.PackageRaises (Reference.ofText reference).target f) :
    i.load reference = .error (.refused f) := by
  obtain ⟨last, outer, hsegments, hraises⟩ := h
  have hlocate : i.locate (Reference.ofText reference).target = .error f := by
    unfold segmentsOf at hsegments
    unfold locate
    rw [if_neg hrelative, hsegments]
    simp only [importPackage_of_raisesAlong hraises]
  refine Traversal.bind_eq_error_iff.mpr (.inl ?_)
  unfold loadModule loadNamed
  rw [if_neg (by simpa using hpath), hlocate]

/-- A module that a target leads to directly is refused only by what leaves its execution. -/
theorem contained_of_load_eq_refused {g : Failure}
    (hname : i.Names (Reference.ofText reference).target (.raises g))
    (h : i.load reference = .error (.refused f)) : g.contained = .error f := by
  rw [load_of_names hname, Except.error.injEq] at h
  exact ofCause_eq_refused_iff.mp h

end Grader.Importer
