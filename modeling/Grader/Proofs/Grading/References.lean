import Grader.Proofs.Grading.Refusal
import Grader.Proofs.Grading.Registration

/-!
References to checks, read back as they are written. What stands before the last colon is the
target and what stands behind it the attribute, except that a target of one character is not told
apart from a drive. A target that leads to a module is answered by that module alone: what any other
file does when it is executed makes no difference, but for the packages around a dotted name.
-/

namespace Grader

namespace Reference

variable {cs before after : List Char} {target name : String}

theorem splitLast_of_notMem (h : ':' ∉ cs) : splitLast cs = none := by
  induction cs with
  | nil => rfl
  | cons c cs ih =>
    obtain ⟨hc, hcs⟩ := not_or.mp (List.mem_cons.not.mp h)
    rw [splitLast, ih hcs]
    exact if_neg (Ne.symm hc)

theorem splitLast_append (before : List Char) (h : ':' ∉ after) :
    splitLast (before ++ ':' :: after) = some (before, after) := by
  -- A text is split in its rest first, and at its own first colon only if that cannot be.
  induction before with
  | nil =>
    rw [List.nil_append, splitLast, splitLast_of_notMem h]
    exact if_pos rfl
  | cons c before ih => rw [List.cons_append, splitLast, ih]

theorem ofText_of_notMem (h : ':' ∉ target.toList) : ofText target = ⟨target, defaultExport⟩ := by
  unfold ofText
  rw [splitLast_of_notMem h]

theorem splitLast_text (h : ':' ∉ name.toList) :
    splitLast (target ++ ":" ++ name).toList = some (target.toList, name.toList) := by
  have hlist : (target ++ ":" ++ name).toList = target.toList ++ ':' :: name.toList := by simp
  rw [hlist]
  exact splitLast_append target.toList h

/-- A reference is read back as it was written; without an attribute it leads to the default one. -/
theorem ofText_append (hname : ':' ∉ name.toList) (hlong : target.length ≠ 1) :
    ofText (target ++ ":" ++ name) = ⟨target, if name = "" then defaultExport else name⟩ := by
  have hlength : target.toList.length ≠ 1 := by rwa [String.length_toList]
  have hempty : name.toList = [] ↔ name = "" := String.toList_eq_nil_iff
  unfold ofText
  rw [splitLast_text hname]
  simp only [hlength, if_false, String.ofList_toList, hempty]

/-- Behind a single character the colon belongs to the target. -/
theorem ofText_of_drive (hname : ':' ∉ name.toList) (hdrive : target.length = 1) :
    ofText (target ++ ":" ++ name) = ⟨target ++ ":" ++ name, defaultExport⟩ := by
  have hlength : target.toList.length = 1 := by rwa [String.length_toList]
  unfold ofText
  rw [splitLast_text hname]
  exact if_pos hlength

end Reference

/-- A reference to an attribute of a module is answered by that attribute: it is a registry, or a
sequence of checks that makes one, or the reference is refused; and a module that fails while it is
executed is answered by its failure. -/
structure Module.Resolves (m : Module) (r : Reference) (reference : String)
    (answer : Except LoadError (Registry Script)) : Prop where
  registry : ∀ exports registry, m = .defines exports →
    exports.lookup r.exported = some (.registry registry) → answer = .ok registry
  checks : ∀ exports cs, m = .defines exports → exports.lookup r.exported = some (.list cs) ∨
    exports.lookup r.exported = some (.tuple cs) → (cs.map (·.name)).Nodup →
    ∃ registry, answer = .ok registry ∧ registry.checks = cs
  missing : ∀ exports, m = .defines exports → exports.lookup r.exported = none →
    answer = .error (.refused (.value
      (r.target ++ " does not define " ++ Text.Quoted.text r.exported)))
  /-- What a module defines is refused for its value only. -/
  refused : ∀ exports e, m = .defines exports → answer = .error e →
    ∃ f, e = .refused f ∧ f.kind = "ValueError"
  raises : ∀ f description, m = .raises f → f.contained = .ok description →
    answer = .error (.module reference f description)
  /-- A failure that ends the whole process, and what describing another one raises. -/
  escapes : ∀ f g, m = .raises f → f.contained = .error g → answer = .error (.refused g)

namespace Importer

variable {i j : Importer} {reference target exported : String} {m : Module}
  {executed segments : List String} {found : FoundModule}

/-- The module that was found, as far as executing it goes. -/
def moduleOf (i : Importer) (found : FoundModule) : Module :=
  match found.file with
  | none => .defines []
  | some file => i.moduleAt file

/-- A dotted name, the last segment of which comes first, leads to a module: the first segment is
found along the directories that are searched, and each of the others inside the package before it,
which has been executed. The files are those that are executed on the way, the module's own last. -/
inductive Finds (i : Importer) : List String → FoundModule → List String → Prop
  | top {name : String} {found : FoundModule} (h : i.find name [] i.path = some found) :
      Finds i [name] found found.file.toList
  | inside {name : String} {outer places before : List String} {file : Option String}
      {found : FoundModule} (around : Finds i outer ⟨file, some places⟩ before)
      (runs : ∃ exports, i.moduleOf ⟨file, some places⟩ = .defines exports)
      (h : i.find name [] places = some found) :
      Finds i (name :: outer) found (before ++ found.file.toList)

/-- A target leads to a module, by way of the files that are executed: it is the path of a file of
source text, which is executed alone, or else the name of a module. -/
inductive Leads (i : Importer) (target : String) : Module → List String → Prop
  | file (path : target.endsWith ".py" = true ∨ i.files.isFile (Path.normal target) = true)
      (isFile : i.files.isFile (i.files.absolute (Path.normal target)) = true)
      (source : (i.files.absolute (Path.normal target)).endsWith ".py" = true) :
      Leads i target (i.moduleAt (i.files.absolute (Path.normal target)))
        [i.files.absolute (Path.normal target)]
  | name {found : FoundModule} {executed : List String}
      (path : ¬(target.endsWith ".py" = true ∨ i.files.isFile (Path.normal target) = true))
      (absolute : ¬target.startsWith "." = true) (h : i.Finds (segmentsOf target) found executed) :
      Leads i target (i.moduleOf found) executed

/-- Two importers search the same files, and what some of them do when they are executed is the
same. -/
structure AgreesOn (i j : Importer) (executed : List String) : Prop where
  files : j.files = i.files
  path : j.path = i.path
  modules : ∀ file ∈ executed, j.moduleAt file = i.moduleAt file

theorem AgreesOn.mono {fewer : List String} (h : i.AgreesOn j executed)
    (hsub : fewer ⊆ executed) : i.AgreesOn j fewer :=
  ⟨h.files, h.path, fun file hfile => h.modules file (hsub hfile)⟩

theorem execute_eq (i : Importer) (found : FoundModule) :
    i.execute found = (i.moduleOf found).execute := by
  unfold execute moduleOf
  cases found.file <;> rfl

theorem find_congr (h : j.files = i.files) (name : String) (parts places : List String) :
    j.find name parts places = i.find name parts places := by
  -- A directory is searched in the files, whatever these do when they are executed.
  have hin (d : String) : j.findIn d name = i.findIn d name := by
    unfold findIn
    rw [h]
  induction places generalizing parts with
  | nil => rfl
  | cons d places ih =>
    rw [find, find, hin]
    cases i.findIn d name with
    | none => exact ih parts
    | some found =>
      obtain ⟨file, inner⟩ := found
      cases file with
      | none => exact ih _
      | some file => rfl

theorem importPackage_of_finds (h : i.Finds segments found executed)
    (hruns : ∃ exports, i.moduleOf found = .defines exports) :
    i.importPackage segments = .ok found.places := by
  -- Outwards in: every package has been executed before anything inside it is looked for.
  induction h with
  | @top name found hfound =>
    obtain ⟨exports, hexports⟩ := hruns
    have hpath : i.importPackage [] = .ok (some i.path) := rfl
    rw [importPackage, hpath]
    simp only [hfound, execute_eq, hexports]
    rfl
  | inside around runs hfound ih =>
    obtain ⟨exports, hexports⟩ := hruns
    rw [importPackage, ih runs]
    simp only [hfound, execute_eq, hexports]
    rfl

theorem locate_of_finds (habsolute : ¬target.startsWith "." = true)
    (h : i.Finds (segmentsOf target) found executed) : i.locate target = .ok found := by
  unfold locate
  rw [if_neg habsolute]
  have hsegments : ((Text.Dotted.components target.toList).map String.ofList).reverse =
      segmentsOf target := rfl
  rw [hsegments]
  generalize segmentsOf target = segments at h
  cases h with
  | top hfound =>
    have hpath : i.importPackage [] = .ok (some i.path) := rfl
    simp only [hpath, hfound]
  | inside around runs hfound =>
    have houter := importPackage_of_finds around runs
    simp only [houter, hfound]

theorem loadModule_of_leads (h : i.Leads target m executed) :
    i.loadModule reference target = run reference m.execute := by
  cases h with
  | file path isFile source => exact loadModule_of_names (.file path isFile source)
  | name path absolute hfound =>
    have hpath : ¬(target.endsWith ".py" || i.files.isFile (Path.normal target)) = true := by
      simpa using path
    unfold loadModule loadNamed
    rw [if_neg hpath, locate_of_finds absolute hfound]
    exact congrArg (run reference) (execute_eq i _)

/-- The answer of a module to a reference to one of its attributes. -/
def answer (m : Module) (r : Reference) (reference : String) :
    Except LoadError (Registry Script) := do
  let exports ← run reference m.execute
  (registryOf r (exports.lookup r.exported)).mapError .refused

theorem load_of_leads (h : i.Leads (Reference.ofText reference).target m executed) :
    i.load reference = answer m (Reference.ofText reference) reference := by
  have hmodule : i.loadModule reference (Reference.ofText reference).target =
      run reference m.execute := loadModule_of_leads h
  unfold load answer
  simp only [hmodule]

theorem answer_of_defines (exports : List (String × Export)) (r : Reference) (reference : String) :
    answer (.defines exports) r reference =
      (registryOf r (exports.lookup r.exported)).mapError .refused := rfl

theorem answer_of_raises (f : Failure) (r : Reference) (reference : String) :
    answer (.raises f) r reference = .error (.ofCause reference f) := rfl

theorem resolves_answer (m : Module) (r : Reference) (reference : String) :
    m.Resolves r reference (answer m r reference) where
  registry := by
    rintro exports registry rfl hlookup
    rw [answer_of_defines, hlookup]
    rfl
  checks := by
    rintro exports cs rfl hlookup hnodup
    obtain ⟨registry, hregistry, hchecks⟩ := Registry.ofChecks_of_nodup hnodup
    have hmade : registryOf r (exports.lookup r.exported) = .ok registry := by
      rcases hlookup with hlist | htuple
      · rw [hlist]
        exact hregistry
      · rw [htuple]
        exact hregistry
    refine ⟨registry, ?_, hchecks⟩
    rw [answer_of_defines, hmade]
    rfl
  missing := by
    rintro exports rfl hlookup
    rw [answer_of_defines, hlookup]
    rfl
  refused := by
    rintro exports e rfl herror
    rw [answer_of_defines] at herror
    obtain ⟨f, hf, rfl⟩ := Traversal.mapError_eq_error_iff.mp herror
    exact ⟨f, rfl, (isOf_of_registryOf_eq_error hf).kind⟩
  raises := by
    rintro f description rfl hf
    rw [answer_of_raises, LoadError.ofCause, hf]
  escapes := by
    rintro f g rfl hf
    rw [answer_of_raises, LoadError.ofCause, hf]

section Agreement

theorem moduleOf_of_agreesOn (h : i.AgreesOn j found.file.toList) :
    j.moduleOf found = i.moduleOf found := by
  unfold moduleOf
  cases hfile : found.file with
  | none => rfl
  | some file => exact h.modules file (by simp [hfile])

theorem Finds.own_subset (h : i.Finds segments found executed) : found.file.toList ⊆ executed := by
  cases h with
  | top => exact List.Subset.refl _
  | inside => exact List.subset_append_right _ _

theorem Finds.of_agreesOn (h : i.Finds segments found executed) (hagrees : i.AgreesOn j executed) :
    j.Finds segments found executed := by
  -- The way to a package is a part of the way to what is inside it, so that the importers agree
  -- there too.
  induction h with
  | @top name found hfound =>
    refine .top ?_
    rw [find_congr hagrees.files, hagrees.path]
    exact hfound
  | @inside name outer places before file found around runs hfound ih =>
    have hbefore : i.AgreesOn j before := hagrees.mono (List.subset_append_left _ _)
    have hpackage : j.moduleOf ⟨file, some places⟩ = i.moduleOf ⟨file, some places⟩ :=
      moduleOf_of_agreesOn (hbefore.mono around.own_subset)
    refine .inside (ih hbefore) ?_ ?_
    · rw [hpackage]
      exact runs
    · rw [find_congr hagrees.files]
      exact hfound

/-- A target leads to the same module wherever the files on the way do the same. -/
theorem Leads.of_agreesOn (h : i.Leads target m executed) (hagrees : i.AgreesOn j executed) :
    j.Leads target m executed := by
  cases h with
  | file path isFile source =>
    have hmodule := hagrees.modules _ (List.mem_singleton_self _)
    rw [← hagrees.files] at path isFile source hmodule ⊢
    rw [← hmodule]
    exact .file path isFile source
  | @name found executed path absolute hfound =>
    have hmodule : j.moduleOf found = i.moduleOf found :=
      moduleOf_of_agreesOn (hagrees.mono hfound.own_subset)
    rw [← hagrees.files] at path
    rw [← hmodule]
    exact .name path absolute (hfound.of_agreesOn hagrees)

end Agreement

/-- A reference resolves an attribute of a module, and it is executed with nothing but some files:
what all others do makes no difference. -/
def ResolvesWith (i : Importer) (m : Module) (r : Reference) (executed : List String)
    (reference : String) : Prop :=
  m.Resolves r reference (i.load reference) ∧
    ∀ j, i.AgreesOn j executed → j.load reference = i.load reference

theorem resolvesWith_of_leads {r : Reference} (hread : Reference.ofText reference = r)
    (h : i.Leads r.target m executed) : i.ResolvesWith m r executed reference := by
  subst hread
  constructor
  · rw [load_of_leads h]
    exact resolves_answer m _ reference
  · intro j hagrees
    rw [load_of_leads h, load_of_leads (h.of_agreesOn hagrees)]

/-- References are read back as they are written. A target that leads to a module is answered by
that module and the attribute behind the colon, or the default one where none is written, and
nothing is executed for it but the files on the way; only a target of one character keeps the colon
and what follows. -/
theorem resolved_as_written (h : i.Leads target m executed) (hexported : exported ≠ "")
    (hcolon : ':' ∉ exported.toList) :
    (target.length ≠ 1 →
      i.ResolvesWith m ⟨target, exported⟩ executed (target ++ ":" ++ exported) ∧
      i.ResolvesWith m ⟨target, "checks"⟩ executed (target ++ ":")) ∧
    (':' ∉ target.toList → i.ResolvesWith m ⟨target, "checks"⟩ executed target) ∧
    (target.length = 1 →
      Reference.ofText (target ++ ":" ++ exported) = ⟨target ++ ":" ++ exported, "checks"⟩ ∧
      Reference.ofText (target ++ ":") = ⟨target ++ ":", "checks"⟩) := by
  have hempty : target ++ ":" = target ++ ":" ++ "" := (String.append_empty).symm
  refine ⟨fun hlong => ⟨?_, ?_⟩, fun htarget => ?_, fun hdrive => ⟨?_, ?_⟩⟩
  · have hread := Reference.ofText_append hcolon hlong
    rw [if_neg hexported] at hread
    exact resolvesWith_of_leads hread h
  · rw [hempty]
    exact resolvesWith_of_leads (Reference.ofText_append List.not_mem_nil hlong) h
  · exact resolvesWith_of_leads (Reference.ofText_of_notMem htarget) h
  · exact Reference.ofText_of_drive hcolon hdrive
  · rw [hempty]
    exact Reference.ofText_of_drive List.not_mem_nil hdrive

theorem moduleAt_of_below {file : String} (components : List String)
    (h : i.files.below file = some components) (hm : i.modules.lookup components = some m) :
    i.moduleAt file = m := by
  unfold moduleAt
  rw [h, Option.bind_some, hm]
  rfl

theorem resolved_as_written_dotted :
    let all : List (Check Script) := [⟨"a", "First", .done .none⟩]
    let m : Module := .defines [("all", .list all), ("checks", .tuple [])]
    let files : Files := ⟨"/work", [(["pkg"], .directory), (["pkg", "__init__.py"], .file []),
      (["pkg", "suite.py"], .file [])]⟩
    let i : Importer := ⟨files, [(["pkg", "__init__.py"], .defines []), (["pkg", "suite.py"], m)],
      ["/work"]⟩
    i.Leads "pkg.suite" m ["/work/pkg/__init__.py", "/work/pkg/suite.py"] ∧
    (∃ registry, i.load "pkg.suite:all" = .ok registry ∧ registry.checks = all) ∧
    (∃ registry, i.load "pkg.suite:" = .ok registry ∧ registry.checks = []) ∧
    ∃ registry, i.load "pkg.suite" = .ok registry ∧ registry.checks = [] := by
  intro all m files i
  have hpackage : i.find "pkg" [] i.path =
      some ⟨some "/work/pkg/__init__.py", some ["/work/pkg"]⟩ := by decide +kernel
  have hsuite : i.find "suite" [] ["/work/pkg"] = some ⟨some "/work/pkg/suite.py", none⟩ := by
    decide +kernel
  have hsegments : segmentsOf "pkg.suite" = ["suite", "pkg"] := by decide +kernel
  have houter : i.moduleOf ⟨some "/work/pkg/__init__.py", some ["/work/pkg"]⟩ =
      .defines [] := moduleAt_of_below ["pkg", "__init__.py"] (by decide +kernel) rfl
  have hm : i.moduleOf ⟨some "/work/pkg/suite.py", none⟩ = m :=
    moduleAt_of_below ["pkg", "suite.py"] (by decide +kernel) rfl
  have hfound : i.Finds (segmentsOf "pkg.suite") ⟨some "/work/pkg/suite.py", none⟩
      ["/work/pkg/__init__.py", "/work/pkg/suite.py"] := by
    rw [hsegments]
    exact .inside (.top hpackage) ⟨[], houter⟩ hsuite
  have hleads : i.Leads "pkg.suite" m ["/work/pkg/__init__.py", "/work/pkg/suite.py"] := by
    rw [← hm]
    exact .name (by decide +kernel) (by decide +kernel) hfound
  obtain ⟨hlong, hplain, -⟩ :=
    resolved_as_written hleads (by decide : "all" ≠ "") (by decide)
  obtain ⟨hnamed, hbare⟩ := hlong (by decide)
  exact ⟨hleads, hnamed.1.checks _ all rfl (.inl rfl) (by decide),
    hbare.1.checks _ [] rfl (.inr rfl) (by decide),
    (hplain (by decide)).1.checks _ [] rfl (.inr rfl) (by decide)⟩

/-- Where references are not read as they are written: behind a name of one character, where the
name of a module is the path of a file too, and where a package around a module fails. -/
theorem written_unresolved :
    let m : Module := .defines [("checks", .list [⟨"a", "First", .done .none⟩])]
    let short : Importer := ⟨⟨"/work", [(["c.py"], .file [])]⟩, [(["c.py"], m)], ["/work"]⟩
    let shadowed : Importer := ⟨⟨"/work", [(["mod"], .file []), (["lib"], .directory),
      (["lib", "mod.py"], .file [])]⟩, [(["lib", "mod.py"], m)], ["/work/lib"]⟩
    let inner : Importer := ⟨⟨"/work", [(["pkg"], .directory), (["pkg", "__init__.py"], .file []),
      (["pkg", "suite.py"], .file [])]⟩,
      [(["pkg", "__init__.py"], .raises (.value "no")), (["pkg", "suite.py"], m)], ["/work"]⟩
    (short.Leads "c" m ["/work/c.py"] ∧
      ¬m.Resolves ⟨"c", "checks"⟩ "c:checks" (short.load "c:checks") ∧
      ¬m.Resolves ⟨"c", "checks"⟩ "c:" (short.load "c:")) ∧
    (shadowed.Finds ["mod"] ⟨some "/work/lib/mod.py", none⟩ ["/work/lib/mod.py"] ∧
      shadowed.moduleAt "/work/lib/mod.py" = m ∧
      ¬m.Resolves ⟨"mod", "checks"⟩ "mod:checks" (shadowed.load "mod:checks")) ∧
    inner.moduleAt "/work/pkg/suite.py" = m ∧
      ¬m.Resolves ⟨"pkg.suite", "checks"⟩ "pkg.suite:checks" (inner.load "pkg.suite:checks") := by
  intro m short shadowed inner
  -- The module answers with a registry wherever it is asked, so that a failure is not its answer.
  have hrefused (target reference : String) (i : Importer)
      (h : (i.load reference).toOption.isSome = false) :
      ¬m.Resolves ⟨target, "checks"⟩ reference (i.load reference) := by
    intro hresolves
    obtain ⟨registry, hregistry, -⟩ := hresolves.checks _ _ rfl (.inl rfl) (by decide)
    rw [hregistry] at h
    exact Bool.noConfusion h
  have hsegments : segmentsOf "c" = ["c"] := by decide +kernel
  have hshort : short.find "c" [] short.path = some ⟨some "/work/c.py", none⟩ := by decide +kernel
  have hfinds : short.Finds (segmentsOf "c") ⟨some "/work/c.py", none⟩ ["/work/c.py"] := by
    rw [hsegments]
    exact .top hshort
  have hm : short.moduleOf ⟨some "/work/c.py", none⟩ = m :=
    moduleAt_of_below ["c.py"] (by decide +kernel) rfl
  have hleads : short.Leads "c" m ["/work/c.py"] := by
    rw [← hm]
    exact .name (by decide +kernel) (by decide +kernel) hfinds
  have hshadowed : shadowed.find "mod" [] shadowed.path =
      some ⟨some "/work/lib/mod.py", none⟩ := by decide +kernel
  refine ⟨⟨hleads, ?_, ?_⟩, ⟨.top hshadowed, ?_, ?_⟩, ?_, ?_⟩
  · exact hrefused "c" "c:checks" short (by decide +kernel)
  · exact hrefused "c" "c:" short (by decide +kernel)
  · exact moduleAt_of_below ["lib", "mod.py"] (by decide +kernel) rfl
  · exact hrefused "mod" "mod:checks" shadowed (by decide +kernel)
  · exact moduleAt_of_below ["pkg", "suite.py"] (by decide +kernel) rfl
  · exact hrefused "pkg.suite" "pkg.suite:checks" inner (by decide +kernel)

end Importer

end Grader
