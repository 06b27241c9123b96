import Grader.Proofs.Command.Halting
import Grader.Proofs.Grading.Publication

/-!
What an evaluation leaves behind. Nothing is published before the run is completed; then the whole
protocol of its result goes to the console, and behind it the record to its file, unless the console
fails. The status of the process is zero if every sink has taken the result, and if an exit with
success leaves the evaluation: that of a package around the module of the checks, or one that
describing a failure raises.
-/

namespace Grader

/-- What is left behind by a publication: what it has written and saved. -/
theorem Command.published_eq (b : Publication) :
    (published b).output = b.output ∧ (published b).effects = b.effects ∧
      (published b).files = b.files := by
  unfold published
  simp only
  split
  · exact ⟨rfl, rfl, rfl⟩
  · split <;> exact ⟨rfl, rfl, rfl⟩

theorem Command.ending_published (b : Publication) :
    (published b).ending = match b.failure with
      | none => .exit 0
      | some f => if f.isA "SinkError" then .exit 2 else .failed f := by
  unfold published
  cases b.failure with
  | none => rfl
  | some f =>
    simp only
    split <;> rfl

/-- The status of a publication, the sinks of which fail by plain failures, is that of success
exactly if none of them fails. -/
theorem Command.code_published {b : Publication}
    (h : ∀ f, b.failure = some f → f.Plain) :
    (published b).ending.code = 0 ↔ b.failure = none := by
  rw [ending_published]
  cases hfailure : b.failure with
  | none => exact ⟨fun _ => rfl, fun _ => rfl⟩
  | some f =>
    have hcode : (if f.isA "SinkError" then Ending.exit 2 else .failed f).code ≠ 0 := by
      split
      · decide
      · change f.status ≠ 0
        rw [Failure.status_of_stays (h f hfailure).stays]
        decide
    exact ⟨fun h => absurd h hcode, fun h => nomatch h⟩

/-- The tree of a text without anything in it is empty. -/
theorem Source.parseModule_nil (shown : Nat → Option (List Char)) :
    parseModule shown [] = .ok (.node .root .module none []) := by
  unfold parseModule parseFrom
  -- There are no literals, so that it does not matter what their values would be.
  generalize literalsAt maxLiteralDepth = literals
  cbv

theorem SourceUnit.ofText_empty (path : String) (shown : Nat → Option (List Char)) :
    ofText path "" shown = ⟨path, .parsed (.node .root .module none [])⟩ := by
  unfold ofText
  simp only [String.toList_empty, Source.parseModule_nil]
  rfl

namespace Evaluation

section Definitions

variable (v : Evaluation) (p : Policy) (r : Result)

/-- The file for the record, if one is named. -/
def records : List Sink :=
  v.results.toList.map fun path => .file ⟨Path.normal path, p.resultScale⟩

/-- Where the result is published, in order. -/
def sinks : List Sink := (if v.quiet then [] else [.console v.console]) ++ v.records p

def publication : Publication := .ofSinks r v.importer.files (v.sinks p)

/-- The lines of the protocol that the console takes. -/
def shown : List String := if v.quiet then [] else v.console.taken r.protocol

/-- The console takes the whole protocol, unless it is left alone. -/
def Shows : Prop := v.quiet = true ∨ v.console.taken r.protocol = r.protocol

/-- Every sink takes the result. -/
def Delivers : Prop := ∀ s ∈ v.sinks p, (Publication.ofSink r v.importer.files s).failure = none

/-- What an evaluation leaves behind if its run is completed. -/
structure Publishes : Prop where
  /-- The protocol goes to the console before the file is touched, and the file is touched only if
  all of it has been taken. -/
  effects : ∃ later, v.outcome.effects = (v.shown r).map .wrote ++ later ∧
    (∀ e ∈ later, ∃ path, v.results = some path ∧ e = .saved (Path.normal path)) ∧
    (later ≠ [] → v.Shows r)
  output : v.outcome.output = String.join (v.shown r)
  /-- A console that does not fail shows every line of the transcript and one score. -/
  lines : v.quiet = false → v.Shows r →
    Text.lines v.outcome.output = r.commentLines ++ [r.gradeLine] ∧
      (Text.lines v.outcome.output).filter Result.isGradeLine = [r.gradeLine]
  untouched : (∀ path, .saved path ∉ v.outcome.effects) → v.outcome.files = v.importer.files
  /-- A record that can be written is written, where it is asked for. -/
  recorded : v.Shows r → ∀ path record fs, v.results = some path →
    ResultFile.publish ⟨Path.normal path, p.resultScale⟩ r v.importer.files = .ok (record, fs) →
    .saved (Path.normal path) ∈ v.outcome.effects ∧ v.outcome.files = fs
  /-- A console that fails is the end of the evaluation. -/
  unshown : ¬v.Shows r → v.outcome.files = v.importer.files ∧ v.outcome.ending = .exit 2
  refused : ∀ s ∈ v.sinks p, ∀ f, (Publication.ofSink r v.importer.files s).failure = some f →
    f.isA "SinkError" = true → v.outcome.ending.code = 2

end Definitions

variable {v : Evaluation} {p : Policy} {r : Result} {e : Ending}

/-- A policy has a positive scale, so that no file is refused for its record. -/
theorem sinksFor_eq : Command.sinksFor v.console p v.results v.quiet = .ok (v.sinks p) := by
  have hfile (path : String) :
      ResultFile.ofPath path p.resultScale = .ok ⟨Path.normal path, p.resultScale⟩ :=
    if_pos (.inl p.resultScale_pos)
  unfold Command.sinksFor sinks records
  cases v.results with
  | none => rfl
  | some path =>
    simp only [Option.toList_some, List.mapM_cons, List.mapM_nil, hfile]
    rfl

theorem outcome_of_run_eq_error (h : v.run = .error e) :
    v.outcome = { files := v.importer.files, ending := e } := by
  have hsteps : v.command.steps v.importer v.entropy v.console = .error e :=
    Traversal.bind_eq_error_iff.mpr (.inl h)
  unfold outcome Command.run
  rw [hsteps]

theorem outcome_of_run_eq_ok (h : v.run = .ok (p, r)) :
    v.outcome = Command.published (v.publication p r) := by
  have hsteps : v.command.steps v.importer v.entropy v.console =
      .ok (Command.published (v.publication p r)) := by
    refine Traversal.bind_eq_ok_iff.mpr ⟨(p, r), h, ?_⟩
    refine Traversal.bind_eq_ok_iff.mpr ⟨v.sinks p, ?_, rfl⟩
    exact Traversal.mapError_eq_ok_iff.mpr sinksFor_eq
  unfold outcome Command.run
  rw [hsteps]

theorem publication_of_shows (h : v.Shows r) :
    v.publication p r =
      { Publication.ofSinks r v.importer.files (v.records p) with
        effects := (v.shown r).map .wrote ++
          (Publication.ofSinks r v.importer.files (v.records p)).effects } := by
  unfold publication sinks shown
  cases hquiet : v.quiet with
  | true => rfl
  | false =>
    have htaken : v.console.taken r.protocol = r.protocol := h.resolve_left (by simp [hquiet])
    have hconsole := @Publication.ofSinks_console_of_taken r v.importer.files v.console
      (v.records p) htaken
    simpa [htaken] using hconsole

theorem publication_of_not_shows (h : ¬v.Shows r) :
    ∃ g, g.isA "SinkError" = true ∧ v.publication p r =
      { effects := (v.shown r).map .wrote, files := v.importer.files, failure := some g } := by
  obtain ⟨hquiet, htaken⟩ := not_or.mp h
  rw [Bool.not_eq_true] at hquiet
  have hconsole := @Publication.ofSinks_console_of_not_taken r v.importer.files v.console
    (v.records p) htaken
  unfold publication sinks shown
  simpa [hquiet] using hconsole

theorem records_cases (v : Evaluation) (p : Policy) :
    v.records p = [] ∨ ∃ path, v.results = some path ∧
      v.records p = [.file ⟨Path.normal path, p.resultScale⟩] := by
  unfold records
  cases v.results with
  | none => exact .inl rfl
  | some path => exact .inr ⟨path, rfl, rfl⟩

/-- Nothing but the file that is named is touched for the record. -/
theorem effects_records : ∀ e ∈ (Publication.ofSinks r v.importer.files (v.records p)).effects,
    ∃ path, v.results = some path ∧ e = .saved (Path.normal path) := by
  intro e he
  rcases v.records_cases p with hrecords | ⟨path, hpath, hrecords⟩
  · rw [hrecords] at he
    cases he
  · rw [hrecords, Publication.ofSinks_singleton] at he
    rcases Publication.ofSink_file ⟨Path.normal path, p.resultScale⟩ with ⟨hnone, -⟩ | hsaved
    · rw [hnone] at he
      cases he
    · rw [hsaved] at he
      exact ⟨path, hpath, List.mem_singleton.mp he⟩

theorem files_records (h : (Publication.ofSinks r v.importer.files (v.records p)).effects = []) :
    (Publication.ofSinks r v.importer.files (v.records p)).files = v.importer.files := by
  rcases v.records_cases p with hrecords | ⟨path, -, hrecords⟩
  · rw [hrecords]
    rfl
  · rw [hrecords, Publication.ofSinks_singleton] at h ⊢
    rcases Publication.ofSink_file ⟨Path.normal path, p.resultScale⟩ with ⟨-, hfiles⟩ | hsaved
    · exact hfiles
    · rw [hsaved] at h
      cases h

/-- There is one sink for the record at most. -/
theorem ofSinks_records {s : Sink} (h : s ∈ v.records p) :
    Publication.ofSinks r v.importer.files (v.records p) =
      Publication.ofSink r v.importer.files s := by
  rcases v.records_cases p with hrecords | ⟨path, -, hrecords⟩
  · rw [hrecords] at h
    cases h
  · rw [hrecords] at h ⊢
    rw [List.mem_singleton.mp h, Publication.ofSinks_singleton]

theorem failure_records : (Publication.ofSinks r v.importer.files (v.records p)).failure = none ↔
    ∀ s ∈ v.records p, (Publication.ofSink r v.importer.files s).failure = none := by
  constructor
  · intro h s hs
    rw [← ofSinks_records hs]
    exact h
  · intro h
    rcases v.records_cases p with hrecords | ⟨path, -, hrecords⟩
    · -- Nothing is left to fail.
      rw [hrecords]
      rfl
    · have hmem : .file ⟨Path.normal path, p.resultScale⟩ ∈ v.records p :=
        hrecords ▸ List.mem_singleton_self _
      rw [ofSinks_records hmem]
      exact h _ hmem

/-- A sink is the console that takes the whole protocol or not, or it is the one for the record. -/
theorem failure_of_mem_sinks {s : Sink} (hshows : v.Shows r) (h : s ∈ v.sinks p) :
    (Publication.ofSink r v.importer.files s).failure = none ∨ s ∈ v.records p := by
  rcases List.mem_append.mp h with hconsole | hrecord
  · left
    split at hconsole
    · cases hconsole
    · rename_i hquiet
      obtain rfl := List.mem_singleton.mp hconsole
      rcases Publication.failure_ofSink_console r v.importer.files v.console with
        ⟨-, hpassed⟩ | ⟨hnot, -⟩
      · exact hpassed
      · exact absurd (hshows.resolve_left hquiet) hnot
  · exact .inr hrecord

theorem shows_of_delivers (h : v.Delivers p r) : v.Shows r := by
  by_contra hshows
  obtain ⟨hquiet, hnot⟩ := not_or.mp hshows
  have hmem : .console v.console ∈ v.sinks p := by
    unfold sinks
    rw [if_neg hquiet]
    exact List.mem_append_left _ (List.mem_singleton_self _)
  rcases Publication.failure_ofSink_console r v.importer.files v.console with
    ⟨htaken, -⟩ | ⟨-, g, -, hfailed⟩
  · exact hnot htaken
  · rw [h _ hmem] at hfailed
    cases hfailed

theorem failure_publication : (v.publication p r).failure = none ↔ v.Delivers p r := by
  by_cases hshows : v.Shows r
  · rw [publication_of_shows hshows]
    refine failure_records.trans ⟨fun h s hs => ?_, fun h s hs => h s (List.mem_append_right _ hs)⟩
    exact (failure_of_mem_sinks hshows hs).elim id (h s)
  · obtain ⟨g, -, hpublication⟩ := publication_of_not_shows (p := p) hshows
    rw [hpublication]
    exact ⟨(fun h => nomatch h), fun h => absurd (shows_of_delivers h) hshows⟩

/-- With a console that does not fail, the record comes behind the protocol. -/
theorem publishes_of_shows (h : v.run = .ok (p, r)) (hshows : v.Shows r) : v.Publishes p r := by
  have houtcome : v.outcome = Command.published _ :=
    (outcome_of_run_eq_ok h).trans (congrArg Command.published (publication_of_shows hshows))
  obtain ⟨houtput, heffects, hfiles⟩ := Command.published_eq (Publication.mk _ _ _)
  rw [← houtcome] at houtput heffects hfiles
  have hshown : v.outcome.output = String.join (v.shown r) := by
    rw [houtput]
    refine Publication.output_eq rfl fun e he => ?_
    obtain ⟨path, -, rfl⟩ := effects_records e he
    rfl
  refine ⟨⟨_, heffects, effects_records, fun _ => hshows⟩, hshown, fun hquiet _ => ?_,
    fun hsaved => ?_, fun _ path record fs hpath hpublish => ?_, fun hnot => absurd hshows hnot,
    fun s hs f hf hkind => ?_⟩
  · have hprotocol : v.shown r = r.protocol := by
      unfold shown
      rw [if_neg (by simp [hquiet])]
      exact hshows.resolve_left (by simp [hquiet])
    rw [hshown, hprotocol, Result.lines_join_protocol]
    exact ⟨rfl, r.filter_isGradeLine⟩
  · rw [hfiles]
    refine files_records (List.eq_nil_iff_forall_not_mem.mpr fun e he => ?_)
    obtain ⟨path, -, rfl⟩ := effects_records e he
    refine hsaved (Path.normal path) ?_
    rw [heffects]
    exact List.mem_append_right _ he
  · -- The sink for the record is behind the console, which leaves the files alone.
    have hmem : .file ⟨Path.normal path, p.resultScale⟩ ∈ v.records p := by
      unfold records
      rw [hpath]
      exact List.mem_singleton_self _
    have hrecord := (ofSinks_records hmem).trans (Publication.ofSink_file_of_publish hpublish)
    rw [heffects, hfiles, hrecord]
    exact ⟨List.mem_append_right _ (List.mem_singleton_self _), rfl⟩
  · -- The console has not failed, so that it is the sink for the record.
    rcases failure_of_mem_sinks hshows hs with hnone | hrecord
    · rw [hnone] at hf
      cases hf
    · have hfailure : (Publication.ofSinks r v.importer.files (v.records p)).failure = some f :=
        (congrArg Publication.failure (ofSinks_records hrecord)).trans hf
      rw [houtcome, Command.ending_published]
      simp only [hfailure, hkind, if_true]
      rfl

/-- A console that fails is the only sink that gets something. -/
theorem publishes_of_not_shows (h : v.run = .ok (p, r)) (hshows : ¬v.Shows r) :
    v.Publishes p r := by
  obtain ⟨g, hkind, hpublication⟩ := publication_of_not_shows (p := p) hshows
  have houtcome : v.outcome = Command.published _ :=
    (outcome_of_run_eq_ok h).trans (congrArg Command.published hpublication)
  obtain ⟨houtput, heffects, hfiles⟩ := Command.published_eq (Publication.mk _ _ _)
  rw [← houtcome] at houtput heffects hfiles
  have hending : v.outcome.ending = .exit 2 := by
    rw [houtcome, Command.ending_published]
    simp only [hkind, if_true]
  refine ⟨⟨[], ?_, List.forall_mem_nil _, fun hne => absurd rfl hne⟩, ?_,
    fun _ h => absurd h hshows, fun _ => hfiles, fun h => absurd h hshows,
    fun _ => ⟨hfiles, hending⟩, fun _ _ _ _ _ => ?_⟩
  · rw [heffects, List.append_nil]
  · rw [houtput]
    exact Publication.output_eq (List.append_nil _).symm (List.forall_mem_nil _)
  · rw [hending]
    rfl

/-- The status of an evaluation that ends before its run is completed is zero only if an exit with
success leaves it. -/
theorem code_of_halts (h : v.Halts e) : e.code = 0 ↔
    ∃ f, e = .failed f ∧ f.status = 0 ∧ v.Escapes f := by
  constructor
  · intro hcode
    -- Only an exit brings a status of its own.
    have hstatus {f : Failure} (hf : f.isA "SystemExit" = false) (hcode : f.status = 0) :
        False := by
      rw [Failure.status_of_stays hf] at hcode
      cases hcode
    cases h with
    | refused h => cases hcode
    | policy h plain => exact (hstatus plain.stays hcode).elim
    | untextual mem opened declares => exact (hstatus rfl hcode).elim
    | module h fatal => exact (hstatus (Failure.stays_of_fatal fatal) hcode).elim
    | body starts mem answer fatal => exact (hstatus (Failure.stays_of_fatal fatal) hcode).elim
    | escaped h => exact ⟨_, rfl, hcode, h⟩
    | unwritten starts long => exact (hstatus rfl hcode).elim
  · rintro ⟨f, rfl, hcode, -⟩
    exact hcode

theorem code_of_run_eq_ok (h : v.run = .ok (p, r)) :
    v.outcome.ending.code = 0 ↔ v.Delivers p r := by
  rw [outcome_of_run_eq_ok h, ← failure_publication]
  exact Command.code_published fun f => Publication.plain_ofSinks

/-- Only what is refused before the run ends in a usage error. -/
theorem refusal_of_usage {u : UsageError} (h : v.outcome.ending = .usage u) : v.Refusal u := by
  cases hrun : v.run with
  | error e =>
    rw [outcome_of_run_eq_error hrun] at h
    have hhalts := halts_of_run_eq_error hrun
    rw [show e = .usage u from h] at hhalts
    cases hhalts with
    | refused h => exact h
  | ok pr =>
    rw [outcome_of_run_eq_ok hrun, Command.ending_published] at h
    split at h
    · cases h
    · split at h <;> cases h

/-- What becomes of an evaluation, the policy and the submissions of which are accepted. -/
structure Grades (v : Evaluation) : Prop where
  /-- Only the body of a check, by a failure that ends the whole process or that describing another
  one raises, and a summary that cannot be written keep the run from being completed. -/
  completed : ∀ p units cs, v.Starts p units cs →
    (∃ r, v.run = .ok (p, r)) ∨ ∃ f, v.run = .error (.failed f) ∧
      ((∃ t ∈ v.turns p units cs, t.escaped = some f) ∨
        f = Decimal.tooLong ∧ ¬Run.Writable p (Engine.standard.report p units)
          ((v.turns p units cs).flatMap Turn.grades))
  /-- A module that fails while it is executed, and that the target leads to directly, is graded as
  one check that fails, if its failure has a text. -/
  replaced : ∀ p units f s, Command.policyFor v.importer.files v.policy v.selfTest = .ok p →
    Command.unitsFor v.importer.files v.files = .ok units →
    v.modules.Names v.target (.raises f) → f.reach ≠ .fatal → f.message = .ok s →
    Decimal.isWritable (Engine.standard.report p units).deduction = true →
    Decimal.isWritable p.maxScore = true →
    ∃ r, v.run = .ok (p, r) ∧ r.failed = ["load_checks"] ∧ r.score = 0
  /-- What describing the failure raises is taken for a failure of the reference. -/
  undescribed : ∀ p units f g, Command.policyFor v.importer.files v.policy v.selfTest = .ok p →
    Command.unitsFor v.importer.files v.files = .ok units →
    v.modules.Names v.target (.raises f) → f.reach ≠ .fatal → f.message = .error g →
    v.run = .error (.refusing "--checks" Command.isReferenceFault g)
  /-- What a package around the module raises is not graded, unless it is taken for a reference that
  leads nowhere. -/
  escaped : ∀ p units f, Command.policyFor v.importer.files v.policy v.selfTest = .ok p →
    Command.unitsFor v.importer.files v.files = .ok units →
    ¬v.target.endsWith ".py" = true ∧ ¬v.modules.files.isFile (Path.normal v.target) = true →
    ¬v.target.startsWith "." = true → v.modules.PackageRaises v.target f →
    Command.isReferenceFault f = false → v.run = .error (.failed f)

theorem run_of_starts {units : List SourceUnit} {cs : List (Check Script)}
    (h : v.Starts p units cs) :
    v.run = ((Engine.standard.run cs p units v.importer.files
      (.ofSeed (v.seed.getD v.entropy))).mapError .failed >>= fun r => .ok (p, r)) := by
  unfold run Command.graded
  rw [h.policy]
  change (Command.unitsFor v.importer.files v.files >>= _) = _
  rw [h.units]
  change (Command.checksFor v.importer v.files v.checks >>= _) = _
  rw [h.checks]
  rfl

theorem run_of_checksFor_eq_error {units : List SourceUnit}
    (hp : Command.policyFor v.importer.files v.policy v.selfTest = .ok p)
    (hunits : Command.unitsFor v.importer.files v.files = .ok units)
    (hchecks : Command.checksFor v.importer v.files v.checks = .error e) : v.run = .error e :=
  Traversal.bind_eq_error_iff.mpr (.inr ⟨p, hp, Traversal.bind_eq_error_iff.mpr
    (.inr ⟨units, hunits, Traversal.bind_eq_error_iff.mpr (.inl hchecks)⟩)⟩)

/-- A reference that is refused ends the run, after the policy and the submissions. -/
theorem run_of_load_eq_refused {units : List SourceUnit} {f : Failure}
    (hp : Command.policyFor v.importer.files v.policy v.selfTest = .ok p)
    (hunits : Command.unitsFor v.importer.files v.files = .ok units)
    (hload : v.modules.load v.checks = .error (.refused f)) :
    v.run = .error (.refusing "--checks" Command.isReferenceFault f) := by
  refine run_of_checksFor_eq_error hp hunits (Traversal.mapError_eq_error_iff.mpr ⟨f, ?_, rfl⟩)
  change v.modules.loadOrFail v.checks = _
  unfold Importer.loadOrFail
  rw [hload]

theorem grades (v : Evaluation) : v.Grades where
  completed p units cs hstarts := by
    rw [run_of_starts hstarts, Run.run_standard]
    have houtcome := Run.withReport_outcome cs p units v.importer.files
      (Engine.standard.report p units) (.ofSeed (v.seed.getD v.entropy))
    cases hrun : Run.withReport cs p units v.importer.files (Engine.standard.report p units)
      (.ofSeed (v.seed.getD v.entropy)) with
    | ok r => exact .inl ⟨r, rfl⟩
    | error f =>
      refine .inr ⟨f, rfl, ?_⟩
      rw [hrun] at houtcome
      cases houtcome with
      | ended t f mem answer fatal =>
        exact .inl ⟨t, mem, Turn.escaped_eq_some_iff.mpr
          ⟨f, answer, Failure.contained_eq_error_iff.mpr (.inl ⟨fatal, rfl⟩)⟩⟩
      | undescribed t f g mem answer contained message =>
        exact .inl ⟨t, mem, Turn.escaped_eq_some_iff.mpr
          ⟨f, answer, Failure.contained_eq_error_iff.mpr (.inr ⟨contained, message⟩)⟩⟩
      | unwritten contained long => exact .inr ⟨rfl, long⟩
  replaced p units f s hp hunits hname hreach hmessage hdeduction hmaximum := by
    have hcs : Command.checksFor v.importer v.files v.checks =
        .ok [LoadError.failedCheck v.checks f] :=
      Traversal.mapError_eq_ok_iff.mpr (Importer.loadOrFail_of_names hname hreach hmessage)
    obtain ⟨r, hr, hunloaded⟩ := (@Run.withReport_failedCheck v.checks f s p units v.importer.files
      (Engine.standard.report p units) (.ofSeed (v.seed.getD v.entropy)) hreach
      hmessage).completed hdeduction hmaximum
    rw [run_of_starts ⟨hp, hunits, hcs⟩, Run.run_standard, hr]
    exact ⟨r, rfl, hunloaded.failed, hunloaded.score⟩
  undescribed p units f g hp hunits hname hreach hmessage := by
    have hg : f.contained = .error g := Failure.contained_eq_error_iff.mpr (.inr ⟨hreach, hmessage⟩)
    have hload : v.modules.load v.checks = .error (.refused g) := by
      rw [Importer.load_of_names hname, Importer.ofCause_eq_refused_iff.mpr hg]
    exact run_of_load_eq_refused hp hunits hload
  escaped p units f hp hunits hpath hrelative hpackage hfault := by
    have hload : v.modules.load v.checks = .error (.refused f) :=
      Importer.load_of_packageRaises hpath hrelative hpackage
    rw [run_of_load_eq_refused hp hunits hload, Ending.refusing, hfault]
    rfl

theorem run_eq_error_of_ending {v : Evaluation} {e : Ending}
    (h : (match v.run with | .error e => some e | .ok _ => none) = some e) : v.run = .error e := by
  cases hrun : v.run with
  | error e' =>
    rw [hrun] at h
    exact congrArg Except.error (Option.some.inj h)
  | ok pr =>
    rw [hrun] at h
    cases h

/-- Publication is all or nothing, but for the status of a process that an exit ends. An evaluation
that ends before its run is completed has written nothing and touched no file, for one of the
reasons that there are; one whose run is completed publishes the result. The status is zero exactly
if the run was completed and every sink has taken its result, or if an exit with success has left
the evaluation; a usage error, the status of which is two, always refuses the policy, the path of a
submission or the reference to the checks. What is accepted is graded, whatever the submissions
hold and the checks do, as far as failures can be described and numbers be written. -/
theorem publishes_all_or_nothing (v : Evaluation) :
    (∀ e, v.run = .error e → v.Halts e ∧ v.outcome.ending = e ∧ v.outcome.output = "" ∧
      v.outcome.effects = [] ∧ v.outcome.files = v.importer.files) ∧
    (∀ p r, v.run = .ok (p, r) → v.Publishes p r) ∧
    (v.outcome.ending.code = 0 ↔ (∃ p r, v.run = .ok (p, r) ∧ v.Delivers p r) ∨
      ∃ f, v.run = .error (.failed f) ∧ f.status = 0 ∧ v.Escapes f) ∧
    (∀ u, v.outcome.ending = .usage u → v.Refusal u ∧ v.outcome.ending.code = 2) ∧ v.Grades := by
  refine ⟨fun e h => ?_, fun p r h => ?_, ?_, fun u h => ⟨refusal_of_usage h, by rw [h]; rfl⟩,
    v.grades⟩
  · rw [outcome_of_run_eq_error h]
    exact ⟨halts_of_run_eq_error h, rfl, rfl, rfl, rfl⟩
  · by_cases hshows : v.Shows r
    · exact publishes_of_shows h hshows
    · exact publishes_of_not_shows h hshows
  · cases hrun : v.run with
    | error e =>
      rw [outcome_of_run_eq_error hrun]
      refine (code_of_halts (halts_of_run_eq_error hrun)).trans ?_
      simp
    | ok pr =>
      obtain ⟨p, r⟩ := pr
      rw [code_of_run_eq_ok hrun]
      simp

/-- A module that exits is graded and published, and a submission that is not there is refused. -/
theorem publishes_all_or_nothing_exit :
    let exit : Failure := ⟨"SystemExit", "0", [.status 0]⟩
    let fs : Files := ⟨"/work", [(["a.py"], .file []), (["checks.py"], .file [])]⟩
    let v : Evaluation := {
      importer := ⟨fs, [(["checks.py"], .raises exit)], ["/work"]⟩, entropy := 0,
      console := .ready, files := ["a.py"], checks := "checks.py", policy := none, results := none,
      seed := none, selfTest := false, quiet := false }
    let w : Evaluation := { v with files := ["a.py", "b.py"] }
    v.outcome.ending.code = 0 ∧
      (Text.lines v.outcome.output).filter Result.isGradeLine = ["Grade :=>>0"] ∧
    w.outcome.ending.code = 2 ∧ w.outcome.effects = [] := by
  intro exit fs v w
  obtain ⟨-, hpublishes, hcode, -, hgrades⟩ := publishes_all_or_nothing v
  have hname : v.modules.Names v.target (.raises exit) := by
    have htarget : v.target = "checks.py" := by decide +kernel
    rw [htarget]
    exact Importer.names_of_lookup (by decide +kernel) (by decide +kernel) (by decide +kernel)
      (by decide +kernel : _ = some ["checks.py"]) rfl
  have hunits : Command.unitsFor v.importer.files v.files =
      .ok [⟨"a.py", .parsed (.node .root .module none [])⟩] := by
    change Except.ok [SourceUnit.ofText "a.py" "" (fs.shownLine "a.py")] = _
    rw [SourceUnit.ofText_empty]
  have hcost : Decimal.isWritable (Engine.standard.report .standard
      [⟨"a.py", .parsed (.node .root .module none [])⟩]).deduction = true := by
    rw [← Catalogue.engine_standard, Catalogue.deduction_report_eq_sum]
    decide +kernel
  obtain ⟨r, hr, -, hscore⟩ := hgrades.replaced .standard _ exit "0" rfl hunits hname (by decide)
    rfl hcost rfl
  have hdelivers : v.Delivers .standard r := by
    intro s hs
    rw [List.mem_singleton.mp hs]
    rfl
  obtain ⟨-, hline⟩ := (hpublishes .standard r hr).lines rfl (.inr rfl)
  have husage : w.run = .error (.usage (.invalid "FILES" "File does not exist: b.py")) :=
    run_eq_error_of_ending (by decide +kernel)
  obtain ⟨-, hending, -, heffects, -⟩ := (publishes_all_or_nothing w).1 _ husage
  refine ⟨hcode.mpr (.inl ⟨.standard, r, hr, hdelivers⟩), ?_, ?_, heffects⟩
  · rw [hline, Result.gradeLine, hscore]
    rfl
  · rw [hending]
    rfl

/-- A package that exits with success while the module inside it is looked up ends the evaluation
with the status of success, although nothing has been graded; and a module whose failure cannot be
described is refused as if the reference to it were wrong. -/
theorem exits_unpublished :
    let exit : Failure := ⟨"SystemExit", "0", [.status 0]⟩
    let mute : Failure := ⟨"KeyError", .raises "ValueError" "no text" [], []⟩
    let fs : Files := ⟨"/work", [(["a.py"], .file []), (["pkg"], .directory),
      (["pkg", "__init__.py"], .file []), (["pkg", "checks.py"], .file [])]⟩
    let v : Evaluation := {
      importer := ⟨fs, [(["pkg", "__init__.py"], .raises exit),
        (["pkg", "checks.py"], .raises mute)], ["/work"]⟩, entropy := 0, console := .ready,
      files := ["a.py"], checks := "pkg.checks", policy := none, results := none, seed := none,
      selfTest := false, quiet := false }
    let w : Evaluation := { v with checks := "pkg/checks.py" }
    (v.outcome.ending.code = 0 ∧ v.outcome.effects = [] ∧ ∀ p r, v.run ≠ .ok (p, r)) ∧
      mute.reach = .ordinary ∧
      w.outcome.ending = .usage (.invalid "--checks" "no text") := by
  intro exit mute fs v w
  have hrun : v.run = .error (.failed exit) := run_eq_error_of_ending (by decide +kernel)
  have hrefused : w.run = .error (.usage (.invalid "--checks" "no text")) :=
    run_eq_error_of_ending (by decide +kernel)
  refine ⟨?_, rfl, ?_⟩
  · rw [outcome_of_run_eq_error hrun, hrun]
    exact ⟨by decide +kernel, rfl, fun p r h => nomatch h⟩
  · rw [outcome_of_run_eq_error hrefused]

end Evaluation

end Grader
