import Grader.Proofs.Engine.Counts
import Grader.Proofs.Engine.Switch

/-! Failing rules are isolated. A rule that fails on a submission contributes a diagnostic and
nothing else, so that the report is the one of a run in which the rule gives nothing there. What an
evaluation itself fails with comes from a failure that ends the process, or from a rule that the
policy does not know, as long as the failures of rules can be described: what describing one raises
leaves the evaluation, too. -/

namespace Grader

/-- The failure of a look-up of a rule that no policy knows. -/
def Policy.unknownRule (rule : String) : Failure :=
  .key ("Unknown rule " ++ Text.Quoted.text rule)

theorem Policy.settings_eq_error {p : Policy} {rule : String} {f : Failure}
    (h : p.settings rule = .error f) :
    RuleName.ofText? rule = none ∧ f = unknownRule rule := by
  unfold settings at h
  split at h
  · cases h
  · rename_i hrule
    cases h
    exact ⟨hrule, rfl⟩

namespace Rule

theorem applies_eq_error {r : Rule} {p : Policy} {f : Failure} (h : r.applies p = .error f) :
    RuleName.ofText? r.name = none ∧ f = Policy.unknownRule r.name := by
  unfold applies at h
  split at h
  · cases h
  · exact Policy.settings_eq_error (Traversal.map_eq_error_iff.mp h)

/-- The rule that gives nothing where this one fails by an ordinary failure. -/
def silenced (r : Rule) : Rule :=
  { r with
    check := fun u p =>
      match (r.check u p).failure with
      | none => r.check u p
      | some f => if f.reach = .ordinary then ⟨[], none⟩ else r.check u p }

variable (r : Rule) (p : Policy) (u : SourceUnit)

theorem isOn_silenced : r.silenced.isOn p = r.isOn p := rfl

/-- What a rule gave before it failed is lost either way. -/
theorem found_silenced : r.silenced.found p u = r.found p u := by
  unfold found
  rw [isOn_silenced]
  cases r.isOn p with
  | false => rfl
  | true =>
    simp only [silenced]
    cases hf : (r.check u p).failure with
    | none => simp [hf]
    | some f => by_cases hr : f.reach = .ordinary <;> simp [hr, hf]

theorem failure_silenced {f : Failure} (h : (r.silenced.check u p).failure = some f) :
    (r.check u p).failure = some f ∧ f.reach ≠ .ordinary := by
  simp only [silenced] at h
  split at h
  · rename_i hnone
    rw [hnone] at h
    cases h
  · rename_i g hg
    split at h
    · cases h
    · rename_i hreach
      rw [hg] at h
      cases h
      exact ⟨hg, hreach⟩

theorem contained_silenced (h : r.Contained p u) : r.silenced.Contained p u := by
  refine ⟨h.known, ?_⟩
  intro hon f hf
  exact h.handled hon f (r.failure_silenced p u hf).1

theorem failed_silenced (h : r.Contained p u) : r.silenced.failed p u = [] := by
  unfold failed
  split
  · rename_i f hon hf
    obtain ⟨hfailure, hreach⟩ := r.failure_silenced p u hf
    obtain ⟨_, hhandled⟩ := h.handled hon f hfailure
    exact absurd (Failure.handled_eq_ok_iff.mp hhandled).1 hreach
  · rfl

end Rule

namespace Engine

/-- The engine in which every rule gives nothing where it fails. -/
def silenced (e : Engine) : Engine where
  rules := e.rules.map Rule.silenced
  nodup_names := by
    rw [List.map_map]
    exact e.nodup_names

/-- What goes wrong when a rule comes to a submission: nothing if the submission is unparsable or
the rule does not apply. -/
def raised (p : Policy) (u : SourceUnit) (r : Rule) : Option Failure :=
  if u.parsable && r.isOn p then (r.check u p).failure else none

/-- Every ordinary failure of a rule that applies, on a submission that it is shown, has a text. -/
def Describes (e : Engine) (p : Policy) (units : List SourceUnit) : Prop :=
  ∀ u ∈ units, ∀ r ∈ e.rules, ∀ f, raised p u r = some f → f.reach = .ordinary →
    ∃ text, f.message = .ok text

/-- Why an evaluation fails. -/
inductive Cause (e : Engine) (p : Policy) (units : List SourceUnit) : Failure → Prop
  /-- A rule failed by a failure that is not ordinary. -/
  | escaped {u : SourceUnit} {r : Rule} {f : Failure} (hu : u ∈ units) (hr : r ∈ e.rules)
      (hraised : raised p u r = some f) (hreach : f.reach ≠ .ordinary) : Cause e p units f
  /-- A submission is parsable, and the policy does not know one of the rules. -/
  | unknown {u : SourceUnit} {r : Rule} (hu : u ∈ units) (hparsable : u.parsable = true)
      (hr : r ∈ e.rules) (hname : RuleName.ofText? r.name = none) :
      Cause e p units (Policy.unknownRule r.name)
  /-- A submission is unparsable, and a rule has the name under which that is reported, which no
  policy knows. -/
  | reserved {u : SourceUnit} {r : Rule} (hu : u ∈ units) (hparsable : u.parsable = false)
      (hr : r ∈ e.rules) (hname : r.name = syntaxRule) :
      Cause e p units (Policy.unknownRule r.name)

variable {e : Engine} {p : Policy} {units : List SourceUnit}

theorem contribution_eq_error {n : Nat} {u : SourceUnit} {r : Rule} {f : Failure}
    (h : contribution p n u r = .error f) :
    (RuleName.ofText? r.name = none ∧ f = Policy.unknownRule r.name) ∨
      r.isOn p = true ∧ ∃ g, (r.check u p).failure = some g ∧ g.handled = .error f := by
  unfold contribution at h
  cases happ : r.applies p with
  | error g =>
    rw [happ] at h
    cases h
    exact Or.inl (Rule.applies_eq_error happ)
  | ok on =>
    rw [happ] at h
    cases on with
    | false => cases h
    | true =>
      refine Or.inr ⟨Rule.isOn_of_applies happ, ?_⟩
      simp only [inspect] at h
      split at h
      · cases h
      · rename_i g hg
        exact ⟨g, hg, Traversal.map_eq_error_iff.mp h⟩

theorem cause_of_collect_eq_error (hall : e.Describes p units) {f : Failure}
    (h : e.collect p units = .error f) : e.Cause p units f := by
  unfold collect at h
  -- The traversal of the submissions fails at one of them, and there that of the rules at one rule.
  obtain ⟨⟨u, n⟩, hmem, hpart⟩ :=
    Traversal.exists_of_mapM_eq_error (Traversal.map_eq_error_iff.mp h)
  have hu : u ∈ units := by
    rw [← List.zipIdx_map_fst 0 units]
    exact List.mem_map_of_mem hmem
  simp only [part] at hpart
  split at hpart
  · rename_i hparsable
    obtain ⟨r, hr, hcontribution⟩ :=
      Traversal.exists_of_mapM_eq_error (Traversal.map_eq_error_iff.mp hpart)
    rcases contribution_eq_error hcontribution with ⟨hname, rfl⟩ | ⟨hon, g, hfailure, hhandled⟩
    · exact .unknown hu hparsable hr hname
    · have hraised : raised p u r = some g := by
        unfold raised
        rw [hparsable, hon]
        exact hfailure
      rcases Failure.handled_eq_error_iff.mp hhandled with ⟨hreach, rfl⟩ | ⟨hreach, hmessage⟩
      · exact .escaped hu hr hraised hreach
      · -- An ordinary failure is described, so that nothing is raised in its place.
        obtain ⟨text, htext⟩ := hall u hu r hr g hraised hreach
        rw [hmessage] at htext
        cases htext
  · cases hpart

/-- A rule that is charged and has no settings has violated something: a parsable submission, or
it shares its name with the violation of an unparsable one. -/
theorem cause_of_deduction_eq_error {f : Failure}
    (h : e.deduction p (e.violations p units) = .error f) : e.Cause p units f := by
  unfold deduction at h
  obtain ⟨r, hr, hcharge⟩ :=
    Traversal.exists_of_mapM_eq_error (Traversal.map_eq_error_iff.mp h)
  unfold charge at hcharge
  split at hcharge
  · rename_i hcharged
    obtain ⟨hname, rfl⟩ := Policy.settings_eq_error (Traversal.map_eq_error_iff.mp hcharge)
    obtain ⟨v, hv, hboth⟩ := List.any_eq_true.mp hcharged
    obtain ⟨u, hu, hfound⟩ := mem_violations.mp hv
    -- Beside a parsable submission any unknown rule is a cause, whatever was found there.
    cases hparsable : u.parsable with
    | true => exact .unknown hu hparsable hr hname
    | false =>
      refine .reserved hu hparsable hr ?_
      unfold found at hfound
      rw [hparsable] at hfound
      rw [Bool.and_eq_true, beq_iff_eq, beq_iff_eq, List.mem_singleton.mp hfound] at hboth
      exact hboth.2.symm
  · cases hcharge

theorem cause_of_evaluate_eq_error (hall : e.Describes p units) {f : Failure}
    (h : e.evaluate p units = .error f) : e.Cause p units f := by
  unfold evaluate at h
  -- What fails is the collection, or the deduction after a collection that did not fail.
  rw [Traversal.bind_eq_error_iff] at h
  rcases h with hcollect | ⟨a, hcollect, h⟩
  · exact cause_of_collect_eq_error hall hcollect
  · obtain ⟨-, rfl⟩ := collect_eq_ok_iff.mp hcollect
    rw [Traversal.bind_eq_error_iff] at h
    rcases h with hdeduction | ⟨n, -, h⟩
    · exact cause_of_deduction_eq_error hdeduction
    · cases h

/-- The diagnostic of a rule that fails on a submission: it names the class and the text of the
failure. -/
def diagnosticOf (r : Rule) (u : SourceUnit) (f : Failure) : Diagnostic :=
  diagnostic r u s!"{f.kind}: {f.text}"

theorem failed_eq_filterMap {u : SourceUnit} (h : e.Contained p u) : e.failed p u =
    e.rules.filterMap fun r => (raised p u r).map (diagnosticOf r u) := by
  unfold failed raised
  rw [List.filterMap_eq_flatMap_toList]
  cases hparsable : u.parsable with
  | false => simp
  | true =>
    refine List.flatMap_congr fun r hr => ?_
    unfold Rule.failed
    cases hon : r.isOn p with
    | false => rfl
    | true =>
      cases hfailure : (r.check u p).failure with
      | none => rfl
      | some f =>
        obtain ⟨description, hhandled⟩ := (h hparsable r hr).handled hon f hfailure
        obtain ⟨text, htext, rfl⟩ :=
          Failure.described_eq_ok_iff.mp (Failure.handled_eq_ok_iff.mp hhandled).2
        simp [hhandled, diagnosticOf, Failure.text_eq htext]

/-- Every failure of a rule on a submission has its diagnostic, by submissions and then by rules. -/
theorem diagnostics_report (h : ∀ u ∈ units, e.Contained p u) : (e.report p units).diagnostics =
    (units ×ˢ e.rules).filterMap fun x => (raised p x.1 x.2).map (diagnosticOf x.2 x.1) := by
  have hproduct : units ×ˢ e.rules = units.flatMap fun u => e.rules.map (Prod.mk u) := rfl
  rw [hproduct, List.filterMap_flatMap]
  simp only [List.filterMap_map]
  exact List.flatMap_congr fun u hu => failed_eq_filterMap (h u hu)

theorem violations_silenced : e.silenced.violations p units = e.violations p units := by
  have hfound (u : SourceUnit) : e.silenced.found p u = e.found p u := by
    unfold found silenced
    simp only [List.flatMap_map, Rule.found_silenced]
  exact violations_congr hfound units

theorem report_silenced (h : ∀ u ∈ units, e.Contained p u) :
    e.silenced.report p units = { e.report p units with diagnostics := [] } := by
  have hdiagnostics : units.flatMap (e.silenced.failed p) = [] := by
    refine List.flatMap_eq_nil_iff.mpr ?_
    intro u hu
    unfold failed silenced
    split
    · rename_i hparsable
      rw [List.flatMap_map, List.flatMap_eq_nil_iff]
      exact fun r hr => r.failed_silenced p u (h u hu hparsable r hr)
    · rfl
  have hpoints (vs : List Violation) : e.silenced.points p vs = e.points p vs := by
    unfold points silenced
    rw [List.map_map]
    rfl
  unfold report
  rw [violations_silenced, hdiagnostics, hpoints]

theorem evaluate_silenced {a : Report} (h : e.evaluate p units = .ok a) :
    e.silenced.evaluate p units = .ok { a with diagnostics := [] } := by
  obtain ⟨hcontained, hpriced, rfl⟩ := evaluate_eq_ok_iff.mp h
  refine evaluate_eq_ok_iff.mpr ⟨?_, ?_, (report_silenced hcontained).symm⟩
  · intro u hu hparsable r hr
    obtain ⟨s, hs, rfl⟩ := List.mem_map.mp hr
    exact s.contained_silenced p u (hcontained u hu hparsable s hs)
  · rw [violations_silenced]
    intro r hr
    obtain ⟨s, hs, rfl⟩ := List.mem_map.mp hr
    exact hpriced s hs

/-- Failures of rules that an evaluation contains show in the diagnostics of its report and nowhere
else: one for every rule that applies and fails on a parsable submission, in the order of the
submissions and then of the catalogue. If all ordinary failures of rules have a text, the evaluation
fails itself only if a failure of a rule is not ordinary, if some submission is parsable and the
policy does not know one of the rules, or if some submission is unparsable and a rule has the name
under which that is reported. -/
theorem failures_isolated (e : Engine) (p : Policy) (units : List SourceUnit)
    (hall : e.Describes p units) :
    (∀ a, e.evaluate p units = .ok a →
      (∃ b, e.silenced.evaluate p units = .ok b ∧
        b.violations = a.violations ∧ b.counts = a.counts ∧ b.deduction = a.deduction ∧
        b.integrityViolated = a.integrityViolated ∧ b.diagnostics = []) ∧
      a.diagnostics =
        (units ×ˢ e.rules).filterMap fun x => (raised p x.1 x.2).map (diagnosticOf x.2 x.1)) ∧
    ∀ f, e.evaluate p units = .error f → e.Cause p units f := by
  constructor
  · intro a ha
    refine ⟨⟨_, evaluate_silenced ha, rfl, rfl, rfl, rfl, rfl⟩, ?_⟩
    obtain ⟨hcontained, -, rfl⟩ := evaluate_eq_ok_iff.mp ha
    exact diagnostics_report hcontained
  · intro f hf
    exact cause_of_evaluate_eq_error hall hf

/-- An engine of one rule, which has the name under which unparsable submissions are reported. -/
def reservedName : Engine := ⟨[Rule.unimplemented syntaxRule], by decide⟩

theorem evaluate_reserved {u : SourceUnit} (hparsable : u.parsable = false) (p : Policy) :
    reservedName.evaluate p [u] = .error (Policy.unknownRule syntaxRule) := by
  have hcollect : reservedName.collect p [u] = .ok ⟨[(0, syntaxViolation u)], []⟩ := by
    have hpart : reservedName.part p 0 u = .ok ⟨[(0, syntaxViolation u)], []⟩ := by
      unfold part
      rw [hparsable]
      rfl
    unfold collect
    simp only [List.zipIdx_cons, List.zipIdx_nil, List.mapM_cons, List.mapM_nil, hpart]
    rfl
  have hordered : Part.ordered ⟨[(0, syntaxViolation u)], []⟩ = [syntaxViolation u] := by
    unfold Part.ordered
    rw [List.mergeSort_singleton, List.map_singleton]
  -- The violation is ordinary and has the name of the rule, whose settings are looked up.
  have hdeduction : reservedName.deduction p [syntaxViolation u] =
      .error (Policy.unknownRule syntaxRule) := rfl
  unfold evaluate
  simp only [hcollect, bind, Except.bind, hordered, hdeduction]

/-- The rule about loops fails on every submission that it is shown, by a failure without a text. -/
def unwordedLoops : Engine :=
  ⟨[Rule.faulty .loops fun _ _ => some (0, Failure.unworded)], by decide⟩

/-- What describing the failure raises leaves the evaluation. -/
theorem evaluate_unworded {u : SourceUnit} (hparsable : u.parsable = true) :
    unwordedLoops.evaluate Policy.strict [u] =
      .error (.type "__str__ returned non-string (type int)") := by
  have hpart : unwordedLoops.part Policy.strict 0 u =
      .error (.type "__str__ returned non-string (type int)") := by
    unfold part
    rw [hparsable]
    rfl
  unfold evaluate collect
  simp only [List.zipIdx_cons, List.zipIdx_nil, List.mapM_cons, hpart]
  rfl

/-- Whatever rules an evaluation contains the failures of are described. -/
theorem describes_of_contained (h : ∀ u ∈ units, e.Contained p u) : e.Describes p units := by
  intro u hu r hr f hraised _
  unfold raised at hraised
  split at hraised
  · rename_i hshown
    obtain ⟨hparsable, hon⟩ := Bool.and_eq_true_iff.mp hshown
    obtain ⟨description, hhandled⟩ := (h u hu hparsable r hr).handled hon f hraised
    obtain ⟨text, htext, -⟩ :=
      Failure.described_eq_ok_iff.mp (Failure.handled_eq_ok_iff.mp hhandled).2
    exact ⟨text, htext⟩
  · cases hraised

/-- The rule about loops fails after the first of two loops, so that both runs have neither. The
engine with the reserved name fails, for a reason that is listed. -/
theorem failures_isolated_hasty :
    (∃ a b, Catalogue.hasty.engine.evaluate Policy.strict loopUnits = .ok a ∧
      Catalogue.hasty.engine.silenced.evaluate Policy.strict loopUnits = .ok b ∧
      b.violations = a.violations ∧
      a.diagnostics.map (fun d => (d.unit, d.rule)) = [("a.py", "loops")] ∧
      b.diagnostics = []) ∧
    Cause reservedName Policy.standard [SourceUnit.ofText "a.py" "\x00"]
      (Policy.unknownRule syntaxRule) := by
  constructor
  · have hrun := Catalogue.hasty.evaluate_of_isContained Policy.strict
      Catalogue.hasty_isContained loopUnits
    obtain ⟨hcontained, -, -⟩ := evaluate_eq_ok_iff.mp hrun
    obtain ⟨⟨b, hb, hviolations, -, -, -, hnone⟩, hdiagnostics⟩ :=
      (failures_isolated Catalogue.hasty.engine Policy.strict loopUnits
        (describes_of_contained hcontained)).1 _ hrun
    refine ⟨_, b, hrun, hb, hviolations, ?_, hnone⟩
    rw [hdiagnostics]
    decide +kernel
  · have hparsable : (SourceUnit.ofText "a.py" "\x00").parsable = false := by decide
    -- An unparsable submission is shown to no rule, so that no failure is to be described.
    have hall : reservedName.Describes Policy.standard [SourceUnit.ofText "a.py" "\x00"] := by
      intro u hu r _ f hraised
      unfold raised at hraised
      rw [List.mem_singleton.mp hu, hparsable] at hraised
      cases hraised
    exact (failures_isolated reservedName Policy.standard _ hall).2 _
      (evaluate_reserved hparsable Policy.standard)

/-- No submission is parsable, so that no rule is asked anything, and the evaluation still fails.
Nor is a failure that is ordinary and has no text kept from ending one. -/
theorem evaluate_reservedName :
    ((SourceUnit.ofText "a.py" "\x00").parsable = false ∧
      (∀ r ∈ reservedName.rules,
        raised Policy.standard (SourceUnit.ofText "a.py" "\x00") r = none) ∧
      reservedName.evaluate Policy.standard [SourceUnit.ofText "a.py" "\x00"] =
        .error (Policy.unknownRule syntaxRule)) ∧
    ((∀ r ∈ unwordedLoops.rules, RuleName.ofText? r.name = some .loops ∧
        (r.check ⟨"a.py", .parsed loopTree⟩ Policy.strict).failure = some .unworded) ∧
      Failure.unworded.reach = .ordinary ∧
      unwordedLoops.evaluate Policy.strict [⟨"a.py", .parsed loopTree⟩] =
        .error (.type "__str__ returned non-string (type int)")) := by
  have hparsable : (SourceUnit.ofText "a.py" "\x00").parsable = false := by decide
  refine ⟨⟨hparsable, ?_, evaluate_reserved hparsable Policy.standard⟩, ?_, rfl,
    evaluate_unworded rfl⟩
  · intro r _
    unfold raised
    rw [hparsable]
    rfl
  · intro r hr
    rw [List.mem_singleton.mp hr]
    exact ⟨rfl, rfl⟩

end Engine

end Grader
