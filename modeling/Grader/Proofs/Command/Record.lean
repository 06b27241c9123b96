import Grader.Proofs.Command.Publication
import Grader.Proofs.Decimal.Quotient

/-!
The record of a completed run. Its numbers are the score and the maximum divided by the scale of the
policy, so that there is a record exactly if the maximum is not too large for a floating point
number and the scale is not infinite. A result that has a record is written to its file, or the file
is refused by a failure of the sink.
-/

namespace Grader

/-- The maximum of a policy has a nearest floating point number, and its scale is not infinite. -/
structure Policy.Scales (p : Policy) : Prop where
  maximum : p.maxScore < Decimal.integerLimit
  scale : p.resultScale.isInf = false

namespace Record

variable {r : Result} {scale : Float} {n : Nat}

/-- The failure of an integer that has no nearest floating point number. -/
def overflow : Failure := ⟨"OverflowError", "int too large to convert to float", []⟩

/-- The failure of a record with a maximum that is not positive. -/
def unscaled : Failure := .validation [⟨["max_score"], "greater_than", none⟩]

/-- Why there is no record under a policy that does not scale. -/
def missing (p : Policy) : Failure :=
  if Decimal.integerLimit ≤ p.maxScore then overflow else unscaled

theorem isA_missing (p : Policy) : (missing p).isA "SinkError" = false := by
  unfold missing
  split <;> rfl

theorem scaled_natCast (n : Nat) (scale : Float) :
    scaled n scale =
      if Decimal.integerLimit ≤ n then .error overflow else .ok (Decimal.toFloat n 0 / scale) := by
  unfold scaled
  rw [Decimal.ofInt?_natCast]
  by_cases hlimit : Decimal.integerLimit ≤ n
  · rw [if_pos hlimit, if_pos hlimit]
    rfl
  · rw [if_neg hlimit, if_neg hlimit]

theorem ofInt?_of_lt (h : n < Decimal.integerLimit) :
    Decimal.ofInt? n = some (Decimal.toFloat n 0) := by
  rw [Decimal.ofInt?_natCast, if_neg h.not_ge]

/-- The numbers of a record have no flaw but a maximum that an infinite scale makes zero. -/
theorem flaws_scaled {score maximum : Nat} (hscale : 0.0 < scale) (hpos : maximum ≠ 0)
    (hscore : score < Decimal.integerLimit) (hmaximum : maximum < Decimal.integerLimit) :
    flaws (Decimal.toFloat score 0 / scale) (Decimal.toFloat maximum 0 / scale) =
      if scale.isInf then unscaled.flaws else [] := by
  have hnonneg : Decimal.toFloat score 0 / scale ≥ 0.0 :=
    Decimal.quotient_nonneg (ofInt?_of_lt hscore) hscale
  have hiff : Decimal.toFloat maximum 0 / scale > 0.0 ↔ scale.isInf = false :=
    Decimal.quotient_pos_iff hpos (ofInt?_of_lt hmaximum) hscale
  unfold flaws
  rw [if_pos hnonneg, List.append_nil]
  cases hinf : scale.isInf with
  | true => exact if_neg fun hlt => Bool.noConfusion (hinf.symm.trans (hiff.mp hlt))
  | false => exact if_pos (hiff.mpr hinf)

/-- What comes of the numbers of a result: the record of its grades, or why there is none. -/
theorem ofResult_eq {score : Nat} (hscore : r.score = score) (hle : score ≤ r.maximum)
    (hpos : r.maximum ≠ 0) (hscale : 0.0 < scale) :
    ofResult r scale =
      if Decimal.integerLimit ≤ r.maximum then .error overflow
      else if scale.isInf then .error unscaled
      else .ok ⟨Decimal.toFloat score 0 / scale, Decimal.toFloat r.maximum 0 / scale,
        r.grades.map entryOf⟩ := by
  unfold ofResult
  rw [hscore, scaled_natCast, scaled_natCast]
  by_cases hlimit : Decimal.integerLimit ≤ r.maximum
  · rw [if_pos hlimit, if_pos hlimit]
    split <;> rfl
  · have hscore' : ¬Decimal.integerLimit ≤ score := fun h => hlimit (h.trans hle)
    rw [if_neg hlimit, if_neg hscore', if_neg hlimit]
    have hflaws := flaws_scaled hscale hpos (Nat.not_le.mp hscore') (Nat.not_le.mp hlimit)
    change (if (flaws _ _).isEmpty then _ else _) = _
    rw [hflaws]
    cases scale.isInf <;> rfl

end Record

namespace FileError

/-- What the file system refuses is a failure that sinks report as their own. -/
theorem isA_failure (e : FileError) (path : String) : (e.failure path).isA "OSError" = true := by
  cases e <;> rfl

end FileError

/-- What comes of writing to a file: the files after it, or a failure of the file system. -/
theorem Files.publish_cases (fs : Files) {path : String} (bytes : List UInt8)
    (h : (Path.normal path).contains '\x00' = false) :
    (∃ fs', fs.publish path bytes = .ok fs') ∨
      ∃ g, fs.publish path bytes = .error g ∧ g.isA "OSError" = true := by
  unfold publish
  simp only [h, Bool.false_eq_true, if_false]
  split
  · rename_i e place _
    exact .inr ⟨_, rfl, e.isA_failure place⟩
  · rename_i made _
    cases hwrite : made.write (Path.normal path) bytes with
    | ok fs' => exact .inl ⟨fs', rfl⟩
    | error e => exact .inr ⟨_, rfl, e.isA_failure _⟩

theorem Files.publish_of_nul {fs : Files} {path : String} {bytes : List UInt8}
    (h : (Path.normal path).contains '\x00' = true) :
    fs.publish path bytes = .error (.value "embedded null byte") := by
  unfold publish
  simp only [h, if_true]

namespace ResultFile

variable {f : ResultFile} {r : Result} {fs : Files} {record : Record}

/-- What comes of publishing a result that has a record: the record is written, or the sink has a
failure of its own. -/
inductive Published (f : ResultFile) (record : Record) (fs : Files) :
    Except Failure (Record × Files) → Prop
  | written {fs' : Files} (h : fs.publish f.path (Text.Utf8.encode record.text) = .ok fs') :
      Published f record fs (.ok (record, fs'))
  | refused {g : Failure} (kind : g.isA "SinkError" = true) : Published f record fs (.error g)

theorem publish_of_written {fs' : Files} (h : Record.ofResult r f.scale = .ok record)
    (hwritten : fs.publish f.path (Text.Utf8.encode record.text) = .ok fs') :
    f.publish r fs = .ok (record, fs') := by
  unfold publish
  rw [h]
  simp only [bind, Except.bind, hwritten]
  rfl

theorem publish_of_refused {g : Failure} (h : Record.ofResult r f.scale = .ok record)
    (hrefused : fs.publish f.path (Text.Utf8.encode record.text) = .error g) :
    f.publish r fs =
      .error (if g.isA "OSError" then (PublishError.file f.path g.text).failure else g) := by
  unfold publish
  rw [h]
  simp only [bind, Except.bind, hrefused]
  rfl

theorem published (fs : Files) (h : Record.ofResult r f.scale = .ok record)
    (hpath : (Path.normal f.path).contains '\x00' = false) :
    f.Published record fs (f.publish r fs) := by
  rcases fs.publish_cases (Text.Utf8.encode record.text) hpath with
    ⟨fs', hwritten⟩ | ⟨g, hrefused, hkind⟩
  · rw [publish_of_written h hwritten]
    exact .written hwritten
  · rw [publish_of_refused h hrefused, if_pos hkind]
    exact .refused rfl

theorem publish_of_nul (h : Record.ofResult r f.scale = .ok record)
    (hpath : (Path.normal f.path).contains '\x00' = true) :
    f.publish r fs = .error (.value "embedded null byte") := by
  rw [publish_of_refused h (Files.publish_of_nul hpath)]
  exact congrArg Except.error (if_neg Bool.false_ne_true)

theorem publish_of_error {g : Failure} (h : Record.ofResult r f.scale = .error g) :
    f.publish r fs = .error g :=
  Traversal.bind_eq_error_iff.mpr (.inl h)

theorem failure_ofSink (f : ResultFile) (r : Result) (fs : Files) :
    (Publication.ofSink r fs (.file f)).failure = match f.publish r fs with
      | .ok _ => none
      | .error g => some g := by
  simp only [Publication.ofSink]
  cases f.publish r fs <;> rfl

end ResultFile

section Runs

variable {e : Engine} {checks : List (Check Script)} {p : Policy} {units : List SourceUnit}
  {fs : Files} {source : Twister} {r : Result}

/-- The score of a completed run lies between zero and the maximum of its policy. -/
theorem Run.score_mem (h : e.run checks p units fs source = .ok r) :
    r.maximum = p.maxScore ∧ ∃ n : Nat, r.score = n ∧ n ≤ p.maxScore := by
  obtain ⟨report, -, hreport⟩ := Traversal.bind_eq_ok_iff.mp h
  have houtcome := withReport_outcome checks p units fs report source
  rw [hreport] at houtcome
  cases houtcome with
  | completed _ _ _ accounts =>
    obtain ⟨-, _, -, rfl⟩ := withReport_eq_ok_iff.mp hreport
    have hnonneg := accounts.nonneg
    have hle := accounts.le_maximum
    exact ⟨rfl, _, (Int.toNat_of_nonneg hnonneg).symm, by omega⟩

/-- A completed run under a policy that scales has a record. -/
theorem Record.ofResult_of_scales (h : e.run checks p units fs source = .ok r) (hp : p.Scales) :
    ∃ record, Record.ofResult r p.resultScale = .ok record ∧
      record.entries = r.grades.map Record.entryOf := by
  obtain ⟨hmaximum, score, hscore, hle⟩ := Run.score_mem h
  have hpos : r.maximum ≠ 0 := hmaximum ▸ p.maxScore_pos.ne'
  rw [ofResult_eq hscore (hmaximum ▸ hle) hpos p.resultScale_pos, hmaximum,
    if_neg hp.maximum.not_ge, hp.scale, if_neg Bool.false_ne_true]
  exact ⟨_, rfl, rfl⟩

theorem Record.ofResult_of_not_scales (h : e.run checks p units fs source = .ok r)
    (hp : ¬p.Scales) :
    Record.ofResult r p.resultScale = .error (missing p) := by
  obtain ⟨hmaximum, score, hscore, hle⟩ := Run.score_mem h
  have hpos : r.maximum ≠ 0 := hmaximum ▸ p.maxScore_pos.ne'
  rw [ofResult_eq hscore (hmaximum ▸ hle) hpos p.resultScale_pos, hmaximum, missing]
  by_cases hlimit : Decimal.integerLimit ≤ p.maxScore
  · rw [if_pos hlimit, if_pos hlimit]
  · have hscale : p.resultScale.isInf = true := by
      by_contra hfinite
      exact hp ⟨Nat.not_le.mp hlimit, Bool.eq_false_of_not_eq_true hfinite⟩
    rw [if_neg hlimit, if_neg hlimit, if_pos hscale]

theorem Evaluation.exists_run {v : Evaluation} (h : v.run = .ok (p, r)) :
    ∃ checks units, Engine.standard.run checks p units v.importer.files
      (.ofSeed (v.seed.getD v.entropy)) = .ok r := by
  obtain ⟨q, -, h⟩ := Traversal.bind_eq_ok_iff.mp h
  obtain ⟨units, -, h⟩ := Traversal.bind_eq_ok_iff.mp h
  obtain ⟨checks, -, h⟩ := Traversal.bind_eq_ok_iff.mp h
  obtain ⟨result, hresult, h⟩ := Traversal.bind_eq_ok_iff.mp h
  cases h
  exact ⟨checks, units, Traversal.mapError_eq_ok_iff.mp hresult⟩

/-- An evaluation that completes its run ends by a status of its own, unless its file has a failure
that is not one of a sink. -/
theorem Evaluation.ending_of_run {v : Evaluation} (h : v.run = .ok (p, r)) :
    v.outcome.ending = .exit 0 ∨ v.outcome.ending = .exit 2 ∨
      ∃ path g, v.results = some path ∧
        ResultFile.publish ⟨Path.normal path, p.resultScale⟩ r v.importer.files = .error g ∧
        g.isA "SinkError" = false := by
  rw [outcome_of_run_eq_ok h, Command.ending_published]
  -- The file comes behind the console, and is not reached if that fails.
  by_cases hshows : v.Shows r
  · rw [publication_of_shows hshows]
    rcases v.records_cases p with hrecords | ⟨path, hpath, hrecords⟩
    · rw [hrecords]
      exact .inl rfl
    · have hfailure := ResultFile.failure_ofSink ⟨Path.normal path, p.resultScale⟩ r
        v.importer.files
      rw [hrecords, Publication.ofSinks_singleton]
      simp only [hfailure]
      cases hpublish : ResultFile.publish ⟨Path.normal path, p.resultScale⟩ r v.importer.files with
      | ok written => exact .inl rfl
      | error g =>
        cases hkind : g.isA "SinkError" with
        | true => exact .inr (.inl (if_pos hkind))
        | false => exact .inr (.inr ⟨path, g, hpath, hpublish, hkind⟩)
  · obtain ⟨g, hkind, hpublication⟩ := publication_of_not_shows (p := p) hshows
    rw [hpublication]
    exact .inr (.inl (if_pos hkind))

/-- With a record, the only failures of the file are those of the sink. -/
theorem Evaluation.ending_of_record {v : Evaluation} {record : Record} (h : v.run = .ok (p, r))
    (hrecord : Record.ofResult r p.resultScale = .ok record)
    (hclean : ∀ path, v.results = some path → (Path.normal path).contains '\x00' = false) :
    v.outcome.ending = .exit 0 ∨ v.outcome.ending = .exit 2 := by
  rcases ending_of_run h with hdone | hfailed | ⟨path, g, hpath, hpublish, hkind⟩
  · exact .inl hdone
  · exact .inr hfailed
  · have hnormal : (Path.normal (Path.normal path)).contains '\x00' = false := by
      rw [Path.normal_normal]
      exact hclean path hpath
    have hpublished := ResultFile.published (f := ⟨Path.normal path, p.resultScale⟩)
      v.importer.files hrecord hnormal
    rw [hpublish] at hpublished
    cases hpublished with
    | refused hrefused => exact Bool.noConfusion (hkind.symm.trans hrefused)

/-- With a console that does not fail, a record that cannot be made ends an evaluation by a failure
that is not handled. -/
theorem Evaluation.ending_of_not_record {v : Evaluation} {path : String} {g : Failure}
    (h : v.run = .ok (p, r)) (hpath : v.results = some path) (hshows : v.Shows r)
    (hrecord : Record.ofResult r p.resultScale = .error g) (hkind : g.isA "SinkError" = false) :
    v.outcome.ending = .failed g := by
  have hrecords : v.records p = [.file ⟨Path.normal path, p.resultScale⟩] := by
    unfold records
    rw [hpath]
    rfl
  have hpublish : ResultFile.publish ⟨Path.normal path, p.resultScale⟩ r v.importer.files =
      .error g := ResultFile.publish_of_error hrecord
  have hfailure := ResultFile.failure_ofSink ⟨Path.normal path, p.resultScale⟩ r v.importer.files
  rw [hpublish] at hfailure
  rw [outcome_of_run_eq_ok h, Command.ending_published, publication_of_shows hshows, hrecords,
    Publication.ofSinks_singleton]
  simp only [hfailure, hkind, Bool.false_eq_true, if_false]

/-- A completed run has a record exactly if the maximum of its policy is not too large and the scale
is not infinite. The record has one entry for each grade, in order, and publishing it writes it or
fails as sinks do, so that the evaluation ends by a status of its own; only a path with a null
character is refused otherwise. Without a record the result is lost: neither failure is one of a
sink. -/
theorem Run.published_of_scales (p : Policy) (r : Result) :
    (∀ (e : Engine) (checks : List (Check Script)) (units : List SourceUnit) (fs : Files)
      (source : Twister), e.run checks p units fs source = .ok r →
      (p.Scales → ∃ record, Record.ofResult r p.resultScale = .ok record ∧
        record.entries = r.grades.map Record.entryOf ∧
        ∀ path files,
          ((Path.normal path).contains '\x00' = false →
            ResultFile.Published ⟨path, p.resultScale⟩ record files
              (ResultFile.publish ⟨path, p.resultScale⟩ r files)) ∧
          ((Path.normal path).contains '\x00' = true →
            ResultFile.publish ⟨path, p.resultScale⟩ r files =
              .error (.value "embedded null byte"))) ∧
      (¬p.Scales → Record.ofResult r p.resultScale = .error (Record.missing p) ∧
        ∀ path files,
          ResultFile.publish ⟨path, p.resultScale⟩ r files = .error (Record.missing p))) ∧
    ∀ v : Evaluation, v.run = .ok (p, r) →
      (p.Scales → (∀ path, v.results = some path → (Path.normal path).contains '\x00' = false) →
        v.outcome.ending = .exit 0 ∨ v.outcome.ending = .exit 2) ∧
      (¬p.Scales → ∀ path, v.results = some path → v.Shows r →
        v.outcome.ending = .failed (Record.missing p)) := by
  constructor
  · intro e checks units fs source h
    constructor
    · intro hp
      obtain ⟨record, hrecord, hentries⟩ := Record.ofResult_of_scales h hp
      refine ⟨record, hrecord, hentries, fun path files => ?_⟩
      constructor
      · intro hclean
        exact ResultFile.published (f := ⟨path, p.resultScale⟩) files hrecord hclean
      · intro hnul
        exact ResultFile.publish_of_nul (f := ⟨path, p.resultScale⟩) hrecord hnul
    · intro hp
      have hrecord := Record.ofResult_of_not_scales h hp
      exact ⟨hrecord, fun path files => ResultFile.publish_of_error hrecord⟩
  · intro v hv
    obtain ⟨checks, units, h⟩ := Evaluation.exists_run hv
    constructor
    · intro hp hclean
      obtain ⟨record, hrecord, -⟩ := Record.ofResult_of_scales h hp
      exact Evaluation.ending_of_record hv hrecord hclean
    · intro hp path hpath hshows
      exact Evaluation.ending_of_not_record hv hpath hshows (Record.ofResult_of_not_scales h hp)
        (Record.isA_missing p)

end Runs

/-- One check that awards points, with a scale that makes a record of the result and with one that
does not. -/
theorem Run.published_of_scales_awarding :
    let awarding : Check Script := ⟨"sum", "adds numbers",
      .grading 30 "adds" (.done (.bool true)) fun _ => .done .none⟩
    let endless : Policy := { resultScale := 1.0 / 0.0 }
    let run (p : Policy) := Engine.standard.run [awarding] p [] ⟨"/work", []⟩ ⟨#[], 0⟩
    (∃ r record, run .standard = .ok r ∧ Record.ofResult r 10.0 = .ok record ∧
      record.entries = [⟨"sum: adds", true, "adds"⟩] ∧
      ResultFile.Published ⟨"r.json", 10.0⟩ record ⟨"/work", []⟩
        (ResultFile.publish ⟨"r.json", 10.0⟩ r ⟨"/work", []⟩)) ∧
    ∃ r, run endless = .ok r ∧
      ResultFile.publish ⟨"r.json", 1.0 / 0.0⟩ r ⟨"/work", []⟩ = .error Record.unscaled := by
  intro awarding endless run
  have hrun (p : Policy) (hmaximum : Decimal.isWritable p.maxScore = true)
      (hcost : Decimal.isWritable (Engine.standard.report p []).deduction = true) :
      ∃ r, run p = .ok r ∧
        r.grades = (turnsOf [awarding] p [] ⟨"/work", []⟩ ⟨#[], 0⟩).flatMap Turn.grades := by
    have hcontained : ∀ t ∈ turnsOf [awarding] p [] ⟨"/work", []⟩ ⟨#[], 0⟩, t.isFatal = false := by
      intro t ht
      rw [List.mem_singleton.mp ht]
      rfl
    obtain ⟨r, hr⟩ := exists_withReport_iff.mpr ⟨hcontained, ⟨rfl, rfl, hcost, hmaximum⟩⟩
    obtain ⟨-, _, -, rfl⟩ := withReport_eq_ok_iff.mp hr
    exact ⟨_, (run_standard ..).trans hr, rfl⟩
  have hlimit : 100 < Decimal.integerLimit := by
    rw [Decimal.integerLimit, Decimal.carryLimit]
    decide +kernel
  have hclean : (Path.normal "r.json").contains '\x00' = false := by
    rw [String.contains_char_eq]
    decide +kernel
  simp only [← Catalogue.engine_standard, Catalogue.deduction_report_eq_sum] at hrun
  constructor
  · obtain ⟨r, hr, hgrades⟩ := hrun .standard rfl rfl
    obtain ⟨hrecord, -⟩ := (published_of_scales .standard r).1 _ _ _ _ _ hr
    obtain ⟨record, hrecord, hentries, hpublish⟩ := hrecord ⟨hlimit, by decide⟩
    exact ⟨r, record, hr, hrecord, hentries.trans (by rw [hgrades]; rfl),
      (hpublish "r.json" ⟨"/work", []⟩).1 hclean⟩
  · obtain ⟨r, hr, -⟩ := hrun endless rfl rfl
    obtain ⟨-, hlost⟩ := (published_of_scales endless r).1 _ _ _ _ _ hr
    have hscale : ¬endless.Scales := fun h => absurd h.scale (by decide)
    have hmissing : Record.missing endless = Record.unscaled := if_neg hlimit.not_ge
    exact ⟨r, hr, hmissing ▸ (hlost hscale).2 "r.json" ⟨"/work", []⟩⟩

/-- A policy may make the scale infinite. An evaluation under it completes its run, and then cannot
make the record, by a failure that is not handled. -/
theorem Evaluation.infinite_scale_loses_record :
    let exit : Failure := ⟨"SystemExit", "0", []⟩
    let fs : Files := ⟨"/work", [(["a.py"], .file []), (["checks.py"], .file []),
      (["p.yaml"], .file (Text.Utf8.encode "result_scale: .inf\n"))]⟩
    let v : Evaluation := {
      importer := ⟨fs, [(["checks.py"], .raises exit)], ["/work"]⟩, entropy := 0,
      console := .ready, files := ["a.py"], checks := "checks.py", policy := some "p.yaml",
      results := some "r.json", seed := none, selfTest := false, quiet := false }
    (∃ p r, v.run = .ok (p, r) ∧ Record.ofResult r p.resultScale = .error Record.unscaled) ∧
      Record.unscaled.isA "SinkError" = false ∧ v.outcome.ending = .failed Record.unscaled := by
  intro exit fs v
  have hunits : Command.unitsFor v.importer.files v.files =
      .ok [⟨"a.py", .parsed (.node .root .module none [])⟩] := by
    change Except.ok [SourceUnit.ofText "a.py" "" (fs.shownLine "a.py")] = _
    rw [SourceUnit.ofText_empty]
  obtain ⟨p, hp, hread⟩ := Traversal.exists_ok_of_any
    (x := Command.policyFor v.importer.files v.policy v.selfTest)
    (q := fun p => p.resultScale.isInf && p.maxScore == 100 && Decimal.isWritable
      (Engine.standard.report p [⟨"a.py", .parsed (.node .root .module none [])⟩]).deduction)
    (by
      simp only [← Catalogue.engine_standard, Catalogue.deduction_report_eq_sum]
      decide +kernel)
  simp only [Bool.and_eq_true, beq_iff_eq] at hread
  obtain ⟨⟨hscale, hmaximum⟩, hcost⟩ := hread
  have hname : v.modules.Names v.target (.raises exit) := by
    have htarget : v.target = "checks.py" := by decide +kernel
    rw [htarget]
    exact Importer.names_of_lookup (by decide +kernel) (by decide +kernel) (by decide +kernel)
      (by decide +kernel : _ = some ["checks.py"]) rfl
  -- The module exits, so that one check stands for it, and the run is completed.
  obtain ⟨r, hr, -⟩ := v.grades.replaced p _ exit "0" hp hunits hname (by decide) rfl hcost
    (by rw [hmaximum]; rfl)
  obtain ⟨checks, units, hrun⟩ := exists_run hr
  have hscales : ¬p.Scales := fun h => Bool.noConfusion (hscale.symm.trans h.scale)
  have hrecord := Record.ofResult_of_not_scales hrun hscales
  have hmissing : Record.missing p = Record.unscaled := by
    refine if_neg ?_
    rw [hmaximum, Decimal.integerLimit, Decimal.carryLimit]
    decide +kernel
  rw [hmissing] at hrecord
  exact ⟨⟨p, r, hr, hrecord⟩, rfl, ending_of_not_record hr rfl (.inr rfl) hrecord rfl⟩

end Grader
