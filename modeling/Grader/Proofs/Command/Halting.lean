import Grader.Proofs.Files.Path
import Grader.Proofs.Grading.Outcome
import Grader.Proofs.Grading.Refusal
import Grader.Proofs.Intake.Verdict
import Grader.Proofs.Policy.Failures
import Grader.Proofs.Source.Reading

/-!
Why an evaluation ends before its run is completed. The policy, the submissions and the reference to
the checks are refused by usage errors, each for reasons of its own; whatever else ends an
evaluation is a failure that no command handles. Submissions that cannot be parsed are no such
reasons, and checks and modules that fail are only where describing their failures fails, too.
-/

namespace Grader

/-- What an evaluation is given. -/
structure Evaluation where
  importer : Importer
  entropy : Int
  console : Console
  files : List String
  checks : String
  policy : Option String
  results : Option String
  seed : Option Int
  selfTest : Bool
  quiet : Bool

namespace Evaluation

variable (v : Evaluation)

def command : Command :=
  .evaluate v.files v.checks v.policy v.results v.seed v.selfTest v.quiet

def outcome : Outcome := v.command.run v.importer v.entropy v.console

/-- The policy of the evaluation and the result of its run, if that is completed. -/
def run : Except Ending (Policy × Result) :=
  Command.graded v.importer v.files v.checks v.policy (v.seed.getD v.entropy) v.selfTest

/-- Where the checks are looked up: along the directories of the submissions, too. -/
def modules : Importer := v.importer.extend (Command.directories v.importer.files v.files)

/-- What leads to the module of the checks. -/
def target : String := (Reference.ofText v.checks).target

/-- The usage errors that an evaluation may end in. -/
inductive Refusal : UsageError → Prop
  /-- The policy is refused by a failure about a value. -/
  | policy {path : String} {f : Failure} {text : String} (named : v.policy = some path)
      (refused : Command.givenPolicy v.importer.files v.policy = .error f)
      (value : f.isA "ValueError" = true) (message : f.message = .ok text) :
      Refusal (.invalid "--policy" text)
  /-- The path of a submission leads to no regular file. -/
  | submission {path : String} {f : Failure} {text : String} (mem : path ∈ v.files)
      (irregular : v.importer.files.isFile (Path.normal path) = false)
      (refused : (Intake.submission v.importer.files (Path.normal path)).required = .error f)
      (message : f.message = .ok text) : Refusal (.invalid "FILES" text)
  /-- The reference to the checks leads nowhere. If its target leads directly to a module that
  fails, the failure is what describing that one raises. -/
  | checks {f : Failure} {text : String}
      (refused : v.modules.load v.checks = .error (.refused f))
      (fault : Command.isReferenceFault f = true) (message : f.message = .ok text)
      (direct : ∀ g, v.modules.Names v.target (.raises g) →
        g.reach ≠ .fatal ∧ g.message = .error f) : Refusal (.invalid "--checks" text)

/-- What a run of the evaluation starts from: the policy, the submissions and the checks. -/
structure Starts (p : Policy) (units : List SourceUnit) (cs : List (Check Script)) : Prop where
  policy : Command.policyFor v.importer.files v.policy v.selfTest = .ok p
  units : Command.unitsFor v.importer.files v.files = .ok units
  checks : Command.checksFor v.importer v.files v.checks = .ok cs

/-- The turns of checks in the run of the evaluation under a policy. -/
def turns (p : Policy) (units : List SourceUnit) (cs : List (Check Script)) : List Turn :=
  Run.turnsOf cs p units v.importer.files (.ofSeed (v.seed.getD v.entropy))

/-- The failures that a module or a check may end the evaluation by, whatever their classes are: no
handler is around them. -/
inductive Escapes : Failure → Prop
  /-- A package around the module of the checks raises the failure. -/
  | package {f : Failure} (h : v.modules.PackageRaises v.target f) : Escapes f
  /-- Describing what a module raises raises the failure. -/
  | module {file : String} {f g : Failure} (raises : v.modules.moduleAt file = .raises f)
      (contained : f.reach ≠ .fatal) (message : f.message = .error g) : Escapes g
  /-- Saying why the reference is refused raises the failure. -/
  | reference {f g : Failure} (refused : v.modules.load v.checks = .error (.refused f))
      (fault : Command.isReferenceFault f = true) (message : f.message = .error g) : Escapes g
  /-- Describing what the body of a check raises raises the failure. -/
  | body {p : Policy} {units : List SourceUnit} {cs : List (Check Script)} {t : Turn}
      {f g : Failure} (starts : v.Starts p units cs) (mem : t ∈ v.turns p units cs)
      (answer : t.answer = .error f) (contained : f.reach ≠ .fatal)
      (message : f.message = .error g) : Escapes g

/-- Why an evaluation ends before its run is completed. -/
inductive Halts : Ending → Prop
  | refused {u : UsageError} (h : v.Refusal u) : Halts (.usage u)
  /-- The policy is refused by a failure that is not about a value. -/
  | policy {f : Failure}
      (h : Command.policyFor v.importer.files v.policy v.selfTest = .error (.failed f))
      (plain : f.Plain) : Halts (.failed f)
  /-- A submission declares an encoding that does not encode text. -/
  | untextual {path name : String} {bytes : List UInt8} (mem : path ∈ v.files)
      (opened : v.importer.files.opened (Path.normal path) = .ok bytes)
      (declares : Source.Encoding.DeclaresUntextual Source.Encoding.known (Path.normal path) bytes
        name) : Halts (.failed (Source.Encoding.untextual name))
  /-- The module of the checks ends the whole process. -/
  | module {f : Failure} (h : v.modules.load v.checks = .error (.refused f))
      (fatal : f.reach = .fatal) : Halts (.failed f)
  /-- The body of a check ends the whole process. -/
  | body {p : Policy} {units : List SourceUnit} {cs : List (Check Script)} {t : Turn} {f : Failure}
      (starts : v.Starts p units cs) (mem : t ∈ v.turns p units cs)
      (answer : t.answer = .error f) (fatal : f.reach = .fatal) : Halts (.failed f)
  | escaped {f : Failure} (h : v.Escapes f) : Halts (.failed f)
  /-- A number of the summary has too many digits to be written. -/
  | unwritten {p : Policy} {units : List SourceUnit} {cs : List (Check Script)}
      (starts : v.Starts p units cs)
      (long : ¬Run.Writable p (Engine.standard.report p units)
        ((v.turns p units cs).flatMap Turn.grades)) : Halts (.failed Decimal.tooLong)

end Evaluation

section Stages

open Command

variable {v : Evaluation} {e : Ending}

/-- A refusal is a usage error, or what saying so raises, or a failure that is not handled. -/
theorem Ending.eq_of_refusing (argument : String) (handled : Failure → Bool) (f : Failure) :
    (∃ text, f.message = .ok text ∧ handled f = true ∧
      Ending.refusing argument handled f = .usage (.invalid argument text)) ∨
    (∃ g, f.message = .error g ∧ handled f = true ∧
      Ending.refusing argument handled f = .failed g) ∨
    handled f = false ∧ Ending.refusing argument handled f = .failed f := by
  unfold refusing
  cases handled f with
  | false => exact .inr (.inr ⟨rfl, rfl⟩)
  | true =>
    cases hmessage : f.message with
    | ok text => exact .inl ⟨text, rfl, rfl, rfl⟩
    | error g => exact .inr (.inl ⟨g, rfl, rfl, rfl⟩)

theorem Evaluation.halts_of_policyFor
    (h : policyFor v.importer.files v.policy v.selfTest = .error e) : v.Halts e := by
  have hpolicy := h
  rcases Traversal.bind_eq_error_iff.mp h with hgiven | ⟨p, -, htest⟩
  · obtain ⟨f, hf, rfl⟩ := Traversal.mapError_eq_error_iff.mp hgiven
    -- Without a file there is the default policy, which nothing refuses.
    have hnamed : ∃ path, v.policy = some path := by
      cases hp : v.policy with
      | none =>
        rw [hp] at hf
        cases hf
      | some path => exact ⟨path, rfl⟩
    obtain ⟨path, hpath⟩ := hnamed
    have hplain : f.Plain := ordinary_givenPolicy _ _ f hf
    obtain ⟨text, htext⟩ := hplain.worded
    rcases Ending.eq_of_refusing "--policy" isValueFault f with
      ⟨text, hmessage, hvalue, hending⟩ | ⟨g, hmessage, -⟩ | ⟨-, hending⟩
    · rw [hending]
      exact .refused (.policy hpath hf hvalue hmessage)
    · rw [htext] at hmessage
      cases hmessage
    · rw [hending] at hpolicy ⊢
      exact .policy hpolicy hplain
  · -- For fixture code the policy that was read is changed once more.
    split at htest
    · obtain ⟨f, hf, rfl⟩ := Traversal.mapError_eq_error_iff.mp htest
      exact .policy hpolicy (Policy.ordinary_withOverrides _ _ f hf)
    · cases htest

/-- A submission that is refused has a path that leads to no regular file. -/
theorem Intake.isFile_of_submission {fs : Files} {path : String} {f : Failure}
    (h : (submission fs (Path.normal path)).required = .error f) :
    fs.isFile (Path.normal path) = false ∧ f.IsOf "ValidationFailure" := by
  have hdemand := Traversal.map_eq_error_iff.mp h
  unfold Verdict.demand at hdemand
  split at hdemand
  · cases hdemand
  · rename_i hinvalid
    cases hdemand
    refine ⟨?_, .mk' ..⟩
    by_contra hfile
    refine hinvalid ?_
    -- The check of a regular file rejects nothing.
    have hsight : ∃ bytes, fs.sight (Path.normal path) = .file (.ok bytes.head?) (.ok bytes) := by
      rw [Bool.not_eq_false] at hfile
      unfold Files.isFile at hfile
      unfold Files.sight
      split at hfile
      · rename_i bytes hlookup
        rw [hlookup]
        exact ⟨bytes, rfl⟩
      · cases hfile
    obtain ⟨bytes, hbytes⟩ := hsight
    refine Verdict.isValid_iff.mpr (errors_judgeSubmission.trans (errors_judgeFile_iff.mpr ?_))
    rw [Path.normal_normal, hbytes]
    exact ⟨_, rfl⟩

theorem Evaluation.halts_of_unitsFor (h : unitsFor v.importer.files v.files = .error e) :
    v.Halts e := by
  rcases Traversal.bind_eq_error_iff.mp h with hintake | ⟨_, -, hunits⟩
  · obtain ⟨f, hf, rfl⟩ := Traversal.mapError_eq_error_iff.mp hintake
    obtain ⟨p, hp, hrequired⟩ := Traversal.exists_of_mapM_eq_error hf
    obtain ⟨path, hpath, rfl⟩ := List.mem_map.mp hp
    obtain ⟨hirregular, hf⟩ := Intake.isFile_of_submission hrequired
    have hvalue : isValueFault f = true := hf.isA "ValueError"
    obtain ⟨text, htext⟩ := hf.worded
    have hending : Ending.refusing "FILES" isValueFault f = .usage (.invalid "FILES" text) := by
      unfold Ending.refusing
      simp only [hvalue, htext, if_true]
    rw [hending]
    exact .refused (.submission hpath hirregular hrequired htext)
  · -- Every submission is a regular file by now, and what is in it cannot refuse it.
    obtain ⟨f, hf, rfl⟩ := Traversal.mapError_eq_error_iff.mp hunits
    obtain ⟨p, hp, hload⟩ := Traversal.exists_of_mapM_eq_error hf
    obtain ⟨path, hpath, rfl⟩ := List.mem_map.mp hp
    obtain ⟨bytes, name, hopened, hname, rfl⟩ := SourceUnit.cause_of_load_eq_error hload
    exact .untextual hpath hopened hname

theorem Importer.load_of_loadOrFail_eq_error {i : Importer} {reference : String} {f : Failure}
    (h : i.loadOrFail reference = .error f) : i.load reference = .error (.refused f) := by
  unfold loadOrFail at h
  split at h
  · cases h
  · cases h
  · rename_i hload
    cases h
    exact hload

theorem Command.isReferenceFault_of_leadsNowhere {f : Failure} (h : Importer.LeadsNowhere f) :
    isReferenceFault f = true := by
  obtain ⟨name, hname, hf⟩ := h
  have hkinds : ∀ name ∈ Importer.referenceKinds, isReferenceFault ⟨name, "", []⟩ = true := by
    decide
  unfold isReferenceFault Failure.isA
  rw [hf.cls]
  exact hkinds name hname

/-- What ends the whole process says nothing about a reference. -/
theorem Command.isReferenceFault_of_fatal {f : Failure} (h : f.reach = .fatal) :
    isReferenceFault f = false := by
  have hordinary {name : String} (hname : ∃ family ∈ Class.families,
      name ∈ family.2 ∧ "Exception" ∈ family.1) : f.isA name = false := by
    by_contra hf
    rw [Failure.ordinary_of_isA (Bool.of_not_eq_false hf) hname] at h
    cases h
  unfold isReferenceFault
  rw [hordinary (by decide), hordinary (by decide), hordinary (by decide)]
  rfl

theorem Evaluation.halts_of_checksFor (h : checksFor v.importer v.files v.checks = .error e) :
    v.Halts e := by
  obtain ⟨f, hf, rfl⟩ := Traversal.mapError_eq_error_iff.mp h
  have hload : v.modules.load v.checks = .error (.refused f) :=
    Importer.load_of_loadOrFail_eq_error hf
  rcases Ending.eq_of_refusing "--checks" isReferenceFault f with
    ⟨text, hmessage, hfault, hending⟩ | ⟨g, hmessage, hfault, hending⟩ | ⟨hfault, hending⟩
  · rw [hending]
    refine .refused (.checks hload hfault hmessage fun g hname => ?_)
    -- What ends the whole process keeps its class, and that is none of a reference.
    have hg := Importer.contained_of_load_eq_refused hname hload
    rcases Failure.contained_eq_error_iff.mp hg with ⟨hfatal, rfl⟩ | hdescribed
    · rw [isReferenceFault_of_fatal hfatal] at hfault
      cases hfault
    · exact hdescribed
  · rw [hending]
    exact .escaped (.reference hload hfault hmessage)
  · rw [hending]
    rcases Importer.cause_of_load_eq_refused hload with hnowhere | hpackage | ⟨file, g, hraises, hg⟩
    · rw [isReferenceFault_of_leadsNowhere hnowhere] at hfault
      cases hfault
    · exact .escaped (.package hpackage)
    · rcases Failure.contained_eq_error_iff.mp hg with ⟨hfatal, rfl⟩ | ⟨hreach, hmessage⟩
      · exact .module hload hfatal
      · exact .escaped (.module hraises hreach hmessage)

theorem Evaluation.halts_of_run {p : Policy} {units : List SourceUnit} {cs : List (Check Script)}
    {f : Failure} (hstarts : v.Starts p units cs)
    (h : Engine.standard.run cs p units v.importer.files (.ofSeed (v.seed.getD v.entropy)) =
      .error f) : v.Halts (.failed f) := by
  have houtcome := Run.withReport_outcome cs p units v.importer.files
    (Engine.standard.report p units) (.ofSeed (v.seed.getD v.entropy))
  rw [Run.run_standard] at h
  rw [h] at houtcome
  cases houtcome with
  | ended t f mem answer fatal => exact .body hstarts mem answer fatal
  | undescribed t f g mem answer contained message =>
    exact .escaped (.body hstarts mem answer contained message)
  | unwritten contained long => exact .unwritten hstarts long

theorem Evaluation.halts_of_run_eq_error (h : v.run = .error e) : v.Halts e := by
  -- One stage after the other: the policy, the submissions, the checks, and the run.
  rcases Traversal.bind_eq_error_iff.mp h with hpolicy | ⟨p, hp, h⟩
  · exact halts_of_policyFor hpolicy
  rcases Traversal.bind_eq_error_iff.mp h with hunits | ⟨units, hus, h⟩
  · exact halts_of_unitsFor hunits
  rcases Traversal.bind_eq_error_iff.mp h with hchecks | ⟨cs, hcs, h⟩
  · exact halts_of_checksFor hchecks
  rcases Traversal.bind_eq_error_iff.mp h with hrun | ⟨r, -, h⟩
  · obtain ⟨f, hf, rfl⟩ := Traversal.mapError_eq_error_iff.mp hrun
    exact halts_of_run ⟨hp, hus, hcs⟩ hf
  · cases h

end Stages

end Grader
