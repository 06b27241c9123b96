import Grader.Grading.Load
import Grader.Proofs.Grading.Outcome

/-!
Check modules that fail while they are executed. Where the failure can be described, the run goes on
with one check in place of theirs, which fails as the module did: it is completed with a score of
zero, and its transcript says what the module raised, as far as its summary can be written.
-/

namespace Grader

theorem Text.Dotted.components_of_notMem {cs : List Char} (h : '.' ∉ cs) :
    components cs = [cs] := by
  induction cs with
  | nil => rfl
  | cons c cs ih =>
    obtain ⟨hc, hcs⟩ := not_or.mp (List.mem_cons.not.mp h)
    rw [components, if_neg (Ne.symm hc), ih hcs]

namespace Importer

variable {i : Importer} {reference target : String} {m : Module} {f : Failure}

/-- A target leads to a module without any other module being executed: it is the path of a file of
source text, or a name without dots that is found along the directories that are searched. -/
inductive Names (i : Importer) (target : String) : Module → Prop
  | file (path : target.endsWith ".py" = true ∨ i.files.isFile (Path.normal target) = true)
      (isFile : i.files.isFile (i.files.absolute (Path.normal target)) = true)
      (source : (i.files.absolute (Path.normal target)).endsWith ".py" = true) :
      Names i target (i.moduleAt (i.files.absolute (Path.normal target)))
  | name {file : String} {places : Option (List String)}
      (path : ¬(target.endsWith ".py" = true ∨ i.files.isFile (Path.normal target) = true))
      (nonempty : target ≠ "") (undotted : '.' ∉ target.toList)
      (found : i.find target [] i.path = some ⟨some file, places⟩) :
      Names i target (i.moduleAt file)

theorem locate_of_find {found : FoundModule} (hdot : '.' ∉ target.toList)
    (h : i.find target [] i.path = some found) : i.locate target = .ok found := by
  have hrelative : ¬target.startsWith "." = true := by
    rw [String.startsWith_string_iff]
    rintro ⟨rest, hrest⟩
    exact hdot (hrest ▸ List.mem_append_left rest (by decide))
  unfold locate
  rw [if_neg hrelative, Text.Dotted.components_of_notMem hdot]
  simp only [List.map_cons, List.map_nil, List.reverse_singleton, String.ofList_toList,
    importPackage, h]

theorem moduleAt_of_lookup {file : String} {components : List String}
    (hfile : i.files.below file = some components) (h : i.modules.lookup components = some m) :
    i.moduleAt file = m := by
  unfold moduleAt
  rw [hfile]
  simp only [Option.bind_some, h, Option.getD_some]

/-- The path of a file of source text leads to what is said about the file. -/
theorem names_of_lookup {components : List String} (hpath : target.endsWith ".py" = true)
    (hfile : i.files.isFile (i.files.absolute (Path.normal target)) = true)
    (hsource : (i.files.absolute (Path.normal target)).endsWith ".py" = true)
    (hbelow : i.files.below (i.files.absolute (Path.normal target)) = some components)
    (h : i.modules.lookup components = some m) : i.Names target m := by
  rw [← moduleAt_of_lookup hbelow h]
  exact .file (.inl hpath) hfile hsource

/-- What loading a module comes to, if its target leads there directly. -/
theorem loadModule_of_names (h : i.Names target m) :
    i.loadModule reference target = run reference m.execute := by
  unfold loadModule
  cases h with
  | file path isFile source =>
    have hpath : (target.endsWith ".py" || i.files.isFile (Path.normal target)) = true := by
      simpa using path
    unfold loadFile
    simp only [hpath, isFile, source, Bool.not_true, Bool.false_eq_true, ↓reduceIte]
  | name path nonempty undotted found =>
    have hpath : ¬(target.endsWith ".py" || i.files.isFile (Path.normal target)) = true := by
      simpa using path
    unfold loadNamed
    rw [if_neg hpath, locate_of_find undotted found]
    rfl

/-- A module that fails is told apart by its failure, or refused by what describing it raises. -/
theorem load_of_names (h : i.Names (Reference.ofText reference).target (.raises f)) :
    i.load reference = .error (.ofCause reference f) :=
  Traversal.bind_eq_error_iff.mpr (.inl (loadModule_of_names h))

/-- A failure that has a text leads to the check that stands for those of the module. -/
theorem loadOrFail_of_names {s : String}
    (h : i.Names (Reference.ofText reference).target (.raises f)) (hreach : f.reach ≠ .fatal)
    (hmessage : f.message = .ok s) :
    i.loadOrFail reference = .ok [LoadError.failedCheck reference f] := by
  unfold loadOrFail
  rw [load_of_names h, LoadError.ofCause, Failure.contained_of_message hreach hmessage]

end Importer

namespace Run

/-- The result of a run whose checks could not be loaded: nothing is awarded, and the report of the
rules is followed by the one check that stands for the others and says what their module raised. -/
structure Unloaded (p : Policy) (report : Report) (reference : String) (f : Failure) (s : String)
    (r : Result) : Prop where
  grades : r.grades = [⟨"load_checks", "load_checks did not complete", 0, 0, false⟩]
  failed : r.failed = ["load_checks"]
  raw : r.raw = -report.deduction
  score : r.score = 0
  report_eq : r.report = report
  lines : ∃ text,
    summary ⟨p.maxScore, p.maxScore_pos, r.grades, report.deduction, some 0⟩ report 0 = .ok text ∧
    r.lines = integrityLines p report ++ report.violations.map violationLine ++
      report.diagnostics.map diagnosticLine ++
      [{ kind := .check, text := "Check 1: Load checks from " ++ reference },
        { kind := .diagnostic, text := s!"[FAILED] Check load_checks raised {f.kind}: {s}" },
        { kind := .summary, text }]

/-- How a run of the check that stands for the others ends: it is completed, unless the deductions
or the maximal score have too many digits to be written. -/
structure EndsUnloaded (p : Policy) (report : Report) (reference : String) (f : Failure)
    (s : String) (answer : Except Failure Result) : Prop where
  completed : Decimal.isWritable report.deduction = true → Decimal.isWritable p.maxScore = true →
    ∃ r, answer = .ok r ∧ Unloaded p report reference f s r
  unwritten : Decimal.isWritable report.deduction = false ∨ Decimal.isWritable p.maxScore = false →
    answer = .error Decimal.tooLong

section FailedCheck

variable {reference : String} {f : Failure} {s : String} (p : Policy) (units : List SourceUnit)
  (fs : Files) (report : Report) (source : Twister)

/-- The check that stands for the others adds nothing of its own and fails as their module did. -/
theorem turnsOf_failedCheck (reference : String) (f : Failure) :
    turnsOf [LoadError.failedCheck reference f] p units fs source =
      [⟨LoadError.failedCheck reference f, .error f, { source }⟩] := by
  unfold turnsOf Setting.turns
  exact congrArg (List.cons _) (ite_self _)

/-- The block of the check in the transcript. -/
theorem lines_failedCheck (reference : String) (hf : f.contained = .ok s!"{f.kind}: {s}") :
    Turn.lines ⟨LoadError.failedCheck reference f, .error f, { source }⟩ 1 =
      [{ kind := .check, text := "Check 1: Load checks from " ++ reference },
        { kind := .diagnostic, text := s!"[FAILED] Check load_checks raised {f.kind}: {s}" }] := by
  have hhead : "Check " ++ toString 1 ++ ": " ++ ("Load checks from " ++ reference) =
      "Check 1: Load checks from " ++ reference := by
    rw [← String.append_assoc]
    rfl
  have hfailed : "[FAILED] Check " ++ "load_checks" ++ " raised " ++ (f.kind ++ ": " ++ s) =
      "[FAILED] Check load_checks raised " ++ f.kind ++ ": " ++ s := by
    rw [← String.append_assoc, ← String.append_assoc]
    rfl
  unfold Turn.lines Turn.complaint
  simp only [hf]
  exact congrArg₂ (fun head failed : String =>
    [({ kind := .check, text := head } : Line), { kind := .diagnostic, text := failed }])
    hhead hfailed

/-- Deductions can only keep a score at zero for which nothing is awarded. -/
theorem unloaded_resultOf (hf : f.contained = .ok s!"{f.kind}: {s}") {text : String}
    (htext : summaryOf p report [⟨LoadError.failedCheck reference f, .error f, { source }⟩] =
      .ok text) :
    Unloaded p report reference f s
      (resultOf p report [⟨LoadError.failedCheck reference f, .error f, { source }⟩] text) := by
  set t : Turn := ⟨LoadError.failedCheck reference f, .error f, { source }⟩
  have hraw : (resultOf p report [t] text).raw = -report.deduction := by
    change (0 + 0 : Int) - report.deduction = _
    omega
  have hscore : finalScore p report ([t].flatMap Turn.grades) = 0 := by
    unfold finalScore
    split
    · rfl
    · change clamp (resultOf p report [t] text).raw 0 p.maxScore = 0
      rw [hraw]
      unfold clamp
      omega
  refine ⟨rfl, rfl, hraw, hscore, rfl, text, ?_, ?_⟩
  · rw [← htext, summaryOf, hscore]
    rfl
  · have hlines : (resultOf p report [t] text).lines = reportLines p report ++ (t.lines 1 ++ []) ++
        [{ kind := .summary, text }] := rfl
    rw [hlines, List.append_nil, lines_failedCheck source reference hf, List.append_assoc]
    rfl

theorem withReport_failedCheck (hreach : f.reach ≠ .fatal) (hmessage : f.message = .ok s) :
    EndsUnloaded p report reference f s
      (withReport [LoadError.failedCheck reference f] p units fs report source) := by
  have hf := Failure.contained_of_message hreach hmessage
  have hturns := turnsOf_failedCheck p units fs source reference f
  have hrun := withReport_of_contained [LoadError.failedCheck reference f] p units fs report source
    (by
      rw [hturns, List.forall_mem_singleton]
      simp only [Turn.isFatal, Turn.escaped, hf, Option.isSome_none])
  rw [hturns] at hrun
  set t : Turn := ⟨LoadError.failedCheck reference f, .error f, { source }⟩
  constructor
  · intro hdeduction hmaximum
    obtain ⟨text, htext⟩ := summaryOf_eq_ok_iff.mpr
      (⟨rfl, rfl, hdeduction, hmaximum⟩ : Writable p report ([t].flatMap Turn.grades))
    rw [htext] at hrun
    exact ⟨_, hrun, unloaded_resultOf p report source hf htext⟩
  · intro hlong
    cases hsummary : summaryOf p report [t] with
    | error g =>
      rw [hrun, hsummary, summaryOf_eq_error hsummary]
      rfl
    | ok text =>
      obtain ⟨-, -, hdeduction, hmaximum⟩ := summaryOf_eq_ok_iff.mp ⟨text, hsummary⟩
      rw [hdeduction, hmaximum] at hlong
      simp at hlong

end FailedCheck

end Run

namespace Importer

/-- A module that fails while it is executed, by an ordinary failure or by an exit that has a text,
is told apart from a reference that leads nowhere, and a run goes on with the check that stands for
it: with every report of the rules, and so under every policy and for every list of submissions, it
is completed without points if its summary can be written. What describing the failure raises, and
a failure that ends the whole process, refuses the reference. -/
theorem run_of_failing_module {i : Importer} {reference : String} {f : Failure}
    (h : i.Names (Reference.ofText reference).target (.raises f)) :
    (∀ s, f.reach ≠ .fatal → f.message = .ok s →
      (∃ e, i.load reference = .error e ∧ e = .module reference f s!"{f.kind}: {s}" ∧
        e.failure = ⟨"CheckLoadError",
          s!"Could not load checks from {reference}: {f.kind}: {s}", []⟩) ∧
      ∃ c, i.loadOrFail reference = .ok [c] ∧ ∀ p units fs source,
        (∀ report, Run.EndsUnloaded p report reference f s
          (Run.withReport [c] p units fs report source)) ∧
        Run.EndsUnloaded p (Engine.standard.report p units) reference f s
          (Engine.standard.run [c] p units fs source)) ∧
    ∀ g, f.contained = .error g →
      i.load reference = .error (.refused g) ∧ i.loadOrFail reference = .error g := by
  have hload := load_of_names h
  unfold LoadError.ofCause at hload
  refine ⟨?_, ?_⟩
  · intro s hreach hmessage
    rw [Failure.contained_of_message hreach hmessage] at hload
    refine ⟨⟨_, hload, rfl, ?_⟩, LoadError.failedCheck reference f,
      loadOrFail_of_names h hreach hmessage, ?_⟩
    · have htext : "Could not load checks from " ++ reference ++ ": " ++ (f.kind ++ ": " ++ s) =
          "Could not load checks from " ++ reference ++ ": " ++ f.kind ++ ": " ++ s := by
        simp only [String.append_assoc]
      exact congrArg (fun text : String => Failure.mk "CheckLoadError" text []) htext
    · intro p units fs source
      rw [Run.run_standard]
      exact ⟨fun report => Run.withReport_failedCheck p units fs report source hreach hmessage,
        Run.withReport_failedCheck p units fs _ source hreach hmessage⟩
  · intro g hg
    rw [hg] at hload
    refine ⟨hload, ?_⟩
    unfold loadOrFail
    rw [hload]

section Modules

/-- Files of check modules, all of them empty texts: what they do is said beside them. -/
def moduleFiles : Files := ⟨"/work", [(["checks.py"], .file []), (["other.py"], .file [])]⟩

/-- An importer in which both modules raise failures. -/
def raising (f g : Failure) : Importer :=
  ⟨moduleFiles, [(["checks.py"], .raises f), (["other.py"], .raises g)], ["/work"]⟩

variable (f g : Failure)

/-- The one is named by its file. -/
theorem names_checks :
    (raising f g).Names (Reference.ofText "checks.py:all").target (.raises f) := by
  have htarget : (Reference.ofText "checks.py:all").target = "checks.py" := by decide +kernel
  have hfile : moduleFiles.isFile (moduleFiles.absolute (Path.normal "checks.py")) = true := by
    decide +kernel
  have hsource : (moduleFiles.absolute (Path.normal "checks.py")).endsWith ".py" = true := by
    decide +kernel
  have hbelow : moduleFiles.below (moduleFiles.absolute (Path.normal "checks.py")) =
      some ["checks.py"] := by decide +kernel
  rw [htarget]
  exact names_of_lookup (by decide +kernel) hfile hsource hbelow rfl

/-- The other one is named as a module. -/
theorem names_other : (raising f g).Names (Reference.ofText "other").target (.raises g) := by
  have hmodule : (raising f g).moduleAt "/work/other.py" = .raises g :=
    moduleAt_of_lookup (by decide +kernel : moduleFiles.below _ = some ["other.py"]) rfl
  have htarget : (Reference.ofText "other").target = "other" := by decide +kernel
  have hpath : ¬("other".endsWith ".py" = true ∨
      moduleFiles.isFile (Path.normal "other") = true) := by decide +kernel
  -- What is found depends on the files alone, and not on what the modules raise.
  have hthere : (raising .unworded .unworded).findIn "/work" "other" =
      some ⟨some "/work/other.py", none⟩ := by decide +kernel
  have hfound : (raising f g).find "other" [] ["/work"] = some ⟨some "/work/other.py", none⟩ := by
    have hhere : (raising f g).findIn "/work" "other" = some ⟨some "/work/other.py", none⟩ := hthere
    unfold find
    rw [hhere]
  rw [htarget, ← hmodule]
  exact .name hpath (by decide) (by decide) hfound

end Modules

/-- A module that exits, named by its file, and one that is not written in the language, named as a
module. -/
theorem run_of_failing_module_exit :
    let exit : Failure := ⟨"SystemExit", "0", [.status 0]⟩
    let syntaxError : Failure := ⟨"SyntaxError", "invalid syntax (other.py, line 1)", []⟩
    let i := raising exit syntaxError
    (∃ c, i.loadOrFail "checks.py:all" = .ok [c] ∧
      ∃ r, Engine.standard.run [c] .strict [] moduleFiles ⟨#[], 0⟩ = .ok r ∧ r.score = 0) ∧
    ∃ c, i.loadOrFail "other" = .ok [c] ∧
      ∃ r, Engine.standard.run [c] {} [] moduleFiles ⟨#[], 0⟩ = .ok r ∧
        Run.Unloaded {} (Engine.standard.report {} []) "other" syntaxError
          "invalid syntax (other.py, line 1)" r := by
  intro exit syntaxError i
  constructor
  · obtain ⟨-, c, hc, hruns⟩ := (run_of_failing_module (names_checks exit syntaxError)).1 "0"
      (by decide) rfl
    obtain ⟨r, hr, hunloaded⟩ := (hruns .strict [] moduleFiles ⟨#[], 0⟩).2.completed
      (by decide +kernel) rfl
    exact ⟨c, hc, r, hr, hunloaded.score⟩
  · obtain ⟨-, c, hc, hruns⟩ := (run_of_failing_module (names_other exit syntaxError)).1 _
      (by decide) rfl
    exact ⟨c, hc, (hruns {} [] moduleFiles ⟨#[], 0⟩).2.completed (by decide +kernel) rfl⟩

/-- A module that raises an ordinary failure without a text is refused by another failure, and the
run in place of a module that raises one with a text is not completed under every policy. -/
theorem failing_module_unreported :
    let i := raising .unworded (.value "boom")
    let p : Policy := { maxScore := 10 ^ 4300, maxScore_pos := Nat.pow_pos (by decide) }
    Failure.unworded.reach = .ordinary ∧
      i.load "checks.py:all" =
        .error (.refused (.type "__str__ returned non-string (type int)")) ∧
      ∃ c, i.loadOrFail "other" = .ok [c] ∧
        Engine.standard.run [c] p [] moduleFiles ⟨#[], 0⟩ = .error Decimal.tooLong := by
  intro i p
  have hmute := load_of_names (names_checks .unworded (.value "boom"))
  have hboom := names_other .unworded (.value "boom")
  refine ⟨rfl, hmute, _, loadOrFail_of_names hboom (by decide) rfl, ?_⟩
  rw [Run.run_standard]
  exact (Run.withReport_failedCheck p [] moduleFiles _ ⟨#[], 0⟩ (by decide) rfl).unwritten
    (.inr (by decide +kernel))

end Importer

end Grader
