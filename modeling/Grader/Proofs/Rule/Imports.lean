import Mathlib
import Grader.Rule.Catalogue
import Grader.Proofs.Text.Dotted
import Grader.Proofs.Source.Selection

/-!
Imports. A module is wanted or not by the segments of its dotted name, and each of the two rules on
imports reports a statement once, with the modules that it does not want. Only the modules count and
not the statement that names them.
-/

namespace Grader

open Source

namespace Source

/-- A statement that is not relative to its package imports these modules. -/
inductive Tree.Imports (t : Tree) : List String → Prop
  /-- `import a.b` imports `a.b`, -/
  | modules : t.label = .importStmt → Imports t (aliasNames t)
  /-- and `from m import x` imports `m.x`. -/
  | members {m : String} : t.label = .importFrom 0 m →
      Imports t ((aliasNames t).map fun x => m ++ "." ++ x)

variable {t : Tree} {n : Node} {ms ms' : List String}

theorem Tree.Imports.unique (h : t.Imports ms) (h' : t.Imports ms') : ms = ms' := by
  cases h with
  | modules hl =>
    cases h' with
    | modules => rfl
    | members hl' => simp [hl] at hl'
  | members hl =>
    cases h' with
    | modules hl' => simp [hl] at hl'
    | members hl' =>
      obtain ⟨-, rfl⟩ := Label.importFrom.inj (hl.symm.trans hl')
      rfl

theorem Tree.Imports.intrinsicKind (h : t.Imports ms) :
    t.label.intrinsicKind = some .importing := by
  cases h with
  | modules hl => rw [hl]; rfl
  | members hl => rw [hl]; rfl

/-- A node of an import shows the modules, and whether the import is relative. -/
theorem imports_iff (hn : n.tree.label.intrinsicKind = some .importing) :
    n.tree.Imports ms ↔ n.isRelative = false ∧ n.modules = ms := by
  obtain ⟨kind, ⟨f, l, s, cs⟩, ancestors, path, role⟩ := n
  constructor
  · rintro (hl | hl) <;> obtain rfl : l = _ := hl <;> exact ⟨rfl, rfl⟩
  · rintro ⟨hrelative, rfl⟩
    cases l
    case importStmt => exact .modules rfl
    case importFrom level m =>
      obtain rfl : level = 0 := by simpa [Node.isRelative, Tree.label] using hrelative
      exact .members rfl
    all_goals simp [Tree.label, Label.intrinsicKind, Label.loopName] at hn

end Source

namespace Rule

/-- The import statements with unwanted modules, relative ones aside, each with these modules. -/
def importReports (u : SourceUnit) (unwanted : String → Prop) [DecidablePred unwanted] :
    List (Node × List String) :=
  ((u.select .importing).filter fun n => !n.isRelative && n.modules.any unwanted).map fun n =>
    (n, n.modules.filter unwanted)

/-- What is reported of imports is what is unwanted. -/
structure ReportsImports (u : SourceUnit) (t : Tree) (unwanted : String → Prop)
    [DecidablePred unwanted] (reports : List (Node × List String)) : Prop where
  /-- Reported are the statements that import an unwanted module and are not relative, once each, -/
  statements : u.Collects t (fun _ v => ∃ ms, v.Imports ms ∧ ∃ m ∈ ms, unwanted m)
    (reports.map (·.1))
  /-- and with a statement come all of its unwanted modules, in the order of the statement. -/
  listed : ∀ r ∈ reports, ∀ ms, r.1.tree.Imports ms → r.2 = ms.filter unwanted

/-- The modules that come with the statement at a path, none if it is not reported. -/
def listedAt (reports : List (Node × List String)) (path : List Nat) : List String :=
  (reports.filter (·.1.path = path)).flatMap (·.2)

section Reports

variable {u : SourceUnit} {t v : Tree} {unwanted : String → Prop} [DecidablePred unwanted]
  {reports : List (Node × List String)} {path : List Nat} {ms : List String}

theorem reportsImports (h : u.tree? = some t) (unwanted : String → Prop)
    [DecidablePred unwanted] : ReportsImports u t unwanted (importReports u unwanted) where
  statements := by
    rw [importReports, List.map_map]
    have hid : (Prod.fst ∘ fun n : Node => (n, n.modules.filter unwanted)) = id := rfl
    rw [hid, List.map_id]
    refine SourceUnit.collects_filter_select h (tells_intrinsic t rfl) ?_ ?_
    · rintro path v ⟨ms, hms, -⟩
      exact hms.intrinsicKind
    · intro n hn
      obtain ⟨-, -, hkind⟩ := SourceUnit.kind_of_mem_select h (tells_intrinsic t rfl) hn
      simp only [imports_iff hkind]
      simp
  listed := by
    intro r hr ms hms
    obtain ⟨n, -, rfl⟩ := List.mem_map.mp hr
    rw [((imports_iff hms.intrinsicKind).mp hms).2]

/-- Whether or not a statement is reported, what comes with it are its unwanted modules. -/
theorem ReportsImports.listedAt_eq (hr : ReportsImports u t unwanted reports)
    (hv : t.at? path = some v) (hms : v.Imports ms) :
    listedAt reports path = ms.filter unwanted := by
  by_cases hbad : ∃ m ∈ ms, unwanted m
  · obtain ⟨n, hn, rfl, rfl⟩ := (hr.statements.exact path v).mpr ⟨hv, ms, hms, hbad⟩
    obtain ⟨r, hmem, rfl⟩ := List.mem_map.mp hn
    have hnodup : (reports.map fun r => r.1.path).Nodup :=
      List.map_map (l := reports) ▸ hr.statements.once
    rw [listedAt, filter_eq_singleton hnodup hmem, List.flatMap_singleton]
    exact hr.listed r hmem ms hms
  · have hnone : reports.filter (·.1.path = path) = [] := by
      rw [List.filter_eq_nil_iff]
      intro r hmem hpath
      obtain ⟨hat, ms', hms', hbad'⟩ := (hr.statements.exact path r.1.tree).mp
        ⟨r.1, List.mem_map_of_mem hmem, of_decide_eq_true hpath, rfl⟩
      obtain rfl := Option.some.inj (hat.symm.trans hv)
      obtain rfl := hms'.unique hms
      exact hbad hbad'
    rw [listedAt, hnone, List.filter_eq_nil_iff.mpr]
    · rfl
    · intro m hm hunwanted
      exact hbad ⟨m, hm, of_decide_eq_true hunwanted⟩

end Reports

/-! ### The two rules -/

/-- Modules outside the allowed ones. -/
def NotAllowed (p : Policy) (m : String) : Prop :=
  ¬ Text.Dotted.BeginsWithAny m (p.lists .allowedImports)

/-- Modules that help to cheat. -/
def Forbidden (p : Policy) (m : String) : Prop :=
  Text.Dotted.BeginsWithAny m (p.lists .forbiddenImports)

instance (p : Policy) : DecidablePred (NotAllowed p) := fun m =>
  inferInstanceAs (Decidable (¬ Text.Dotted.BeginsWithAny m (p.lists .allowedImports)))

instance (p : Policy) : DecidablePred (Forbidden p) := fun m =>
  inferInstanceAs (Decidable (Text.Dotted.BeginsWithAny m (p.lists .forbiddenImports)))

/-- A report of modules that are not allowed, with those that are. -/
def importFinding (u : SourceUnit) (p : Policy) (r : Node × List String) : Finding :=
  let allowed := String.intercalate ", " (p.lists .allowedImports)
  let shownAllowed := if allowed = "" then "none" else allowed
  let shownRejected := String.intercalate ", " r.2
  at' u r.1 s!"Import of {shownRejected} is not allowed (allowed: {shownAllowed})"

/-- A report of modules that help to cheat. -/
def cheatImportFinding (u : SourceUnit) (r : Node × List String) : Finding :=
  at' u r.1 ("[CHEAT] Forbidden import: " ++ String.intercalate ", " r.2)

section Unit

variable {u : SourceUnit} {t : Tree}

/-- What is found of imports is what is reported, in whatever words. -/
theorem filterMap_importing_eq (u : SourceUnit) {bad : String → Bool} {unwanted : String → Prop}
    [DecidablePred unwanted] (hbad : ∀ m, bad m = true ↔ unwanted m)
    (finding : Node × List String → Finding) :
    ((u.select .importing).filterMap fun n =>
      if n.isRelative || (n.modules.filter bad).isEmpty then none
      else some (finding (n, n.modules.filter bad))) =
    (importReports u unwanted).map finding := by
  obtain rfl : bad = fun m => decide (unwanted m) := by
    funext m
    rw [Bool.eq_iff_iff, hbad m, decide_eq_true_iff]
  rw [importReports, List.map_map, ← List.filterMap_eq_map, List.filterMap_filter]
  refine List.filterMap_congr fun n _ => ?_
  have hempty : (n.modules.filter fun m => decide (unwanted m)).isEmpty =
      !n.modules.any fun m => decide (unwanted m) := by
    rw [Bool.eq_iff_iff]
    simp
  rw [hempty]
  cases n.isRelative <;> cases n.modules.any fun m => decide (unwanted m) <;> rfl

theorem importFindings_eq (u : SourceUnit) (p : Policy) :
    importFindings u p = (importReports u (NotAllowed p)).map (importFinding u p) := by
  have hbad (m : String) :
      (!Text.Dotted.isWithinAny m (p.lists .allowedImports)) = true ↔ NotAllowed p m := by
    rw [NotAllowed, ← Text.Dotted.isWithinAny_iff, Bool.not_eq_true', Bool.not_eq_true]
  exact filterMap_importing_eq u hbad (importFinding u p)

theorem cheatImportFindings_eq (u : SourceUnit) (p : Policy) :
    cheatImportFindings u p = (importReports u (Forbidden p)).map (cheatImportFinding u) :=
  filterMap_importing_eq u (fun _ => Text.Dotted.isWithinAny_iff) (cheatImportFinding u)

/-- What two rules make of imports that are not relative. -/
structure JudgesImports (u : SourceUnit) (t : Tree) (p : Policy) : Prop where
  /-- The one rule reports the modules that are not allowed, -/
  allowing : (ofName .imports).check u p = ⟨(importReports u (NotAllowed p)).map fun r =>
      (importFinding u p r).violation RuleName.imports.text .ordinary u, none⟩ ∧
    ReportsImports u t (NotAllowed p) (importReports u (NotAllowed p))
  /-- and the other one those that help to cheat. -/
  forbidding : (ofName .cheatImports).check u p = ⟨(importReports u (Forbidden p)).map fun r =>
      (cheatImportFinding u r).violation RuleName.cheatImports.text .cheat u, none⟩ ∧
    ReportsImports u t (Forbidden p) (importReports u (Forbidden p))
  /-- With one list for both, each module of a statement comes with one of the rules. -/
  parted : ∀ q : Policy, q.lists .forbiddenImports = p.lists .allowedImports →
    ∀ path v ms, t.at? path = some v → v.Imports ms →
      (listedAt (importReports u (NotAllowed p)) path ++
        listedAt (importReports u (Forbidden q)) path).Perm ms ∧
      (listedAt (importReports u (NotAllowed p)) path).Disjoint
        (listedAt (importReports u (Forbidden q)) path)
  /-- It does not count whether `import m.x` or `from m import x` names a module. -/
  alike : ∀ u' t' path path' v v' m, SourceUnit.tree? u' = some t' → t.at? path = some v →
    t'.at? path' = some v' → v.label = .importStmt → v'.label = .importFrom 0 m →
    aliasNames v = (aliasNames v').map (fun x => m ++ "." ++ x) →
      listedAt (importReports u (NotAllowed p)) path =
        listedAt (importReports u' (NotAllowed p)) path' ∧
      listedAt (importReports u (Forbidden p)) path =
        listedAt (importReports u' (Forbidden p)) path'

theorem judgesImports (h : u.tree? = some t) (p : Policy) : JudgesImports u t p where
  allowing := by
    refine ⟨?_, reportsImports h _⟩
    change (⟨(importFindings u p).map _, none⟩ : Yield) = _
    rw [importFindings_eq, List.map_map]
    rfl
  forbidding := by
    refine ⟨?_, reportsImports h _⟩
    change (⟨(cheatImportFindings u p).map _, none⟩ : Yield) = _
    rw [cheatImportFindings_eq, List.map_map]
    rfl
  parted q hq path v ms hv hms := by
    have hrest : ms.filter (Forbidden q ·) = ms.filter fun m => !decide (NotAllowed p m) := by
      refine List.filter_congr fun m _ => ?_
      have hnot : Forbidden q m ↔ ¬ NotAllowed p m := by rw [Forbidden, NotAllowed, hq, not_not]
      rw [← decide_not, decide_eq_decide]
      exact hnot
    rw [(reportsImports h (NotAllowed p)).listedAt_eq hv hms,
      (reportsImports h (Forbidden q)).listedAt_eq hv hms, hrest]
    refine ⟨List.filter_append_perm _ ms, ?_⟩
    intro m hm hm'
    have hyes := (List.mem_filter.mp hm).2
    have hno := (List.mem_filter.mp hm').2
    simp [hyes] at hno
  alike u' t' path path' v v' m h' hv hv' hl hl' hnames := by
    have hms : v.Imports (aliasNames v) := .modules hl
    have hms' : v'.Imports (aliasNames v) := hnames ▸ .members hl'
    constructor <;>
    rw [(reportsImports h _).listedAt_eq hv hms, (reportsImports h' _).listedAt_eq hv' hms']

/-- A dotted name has a prefix in a list exactly if it begins with the segments of one there, and
imports are judged by that. -/
theorem imports_judged_by_segments (u : SourceUnit) (t : Tree) (h : u.tree? = some t)
    (p : Policy) :
    (∀ name roots, Text.Dotted.isWithinAny name roots = true ↔
      ∃ root ∈ roots, Text.Dotted.segments root <+: Text.Dotted.segments name) ∧
    JudgesImports u t p :=
  ⟨fun _ _ => Text.Dotted.isWithinAny_iff, judgesImports h p⟩

/-- Three imports, of which the last one is relative:

    >>> import math.pi, mathx.y, os
    >>> from mathx import y
    >>> from . import os
-/
def importingTree : Tree :=
  let named (name : String) (l : Location) : Tree :=
    .node .names (.importAlias name) (some l) []
  .node .root .module none [
    .node .body .importStmt (some ⟨1, 0⟩) [
      named "math.pi" ⟨1, 7⟩, named "mathx.y" ⟨1, 16⟩, named "os" ⟨1, 25⟩],
    .node .body (.importFrom 0 "mathx") (some ⟨2, 0⟩) [named "y" ⟨2, 18⟩],
    .node .body (.importFrom 1 "") (some ⟨3, 0⟩) [named "os" ⟨3, 14⟩]]

def importingUnit : SourceUnit := ⟨"importing.py", .parsed importingTree⟩

/-- The policy that forbids what is allowed otherwise. -/
def contrary : Policy :=
  { Policy.standard with
    lists := fun
      | .forbiddenImports => NameList.default .allowedImports
      | l => NameList.default l }

/-- The name `mathx` continues `math`, and not behind a dot; the modules of the first statement are
parted by one list in both roles; and the relative import is not reported. -/
theorem imports_judged_by_segments_importing :
    importingUnit.tree? = some importingTree ∧
      ¬ Text.Dotted.isWithinAny "mathx.y" ["math"] = true ∧
      ((ofName .imports).check importingUnit Policy.standard).violations.map (·.message) =
        ["Import of mathx.y, os is not allowed (allowed: " ++
            String.intercalate ", " (Policy.standard.lists .allowedImports) ++ ")",
          "Import of mathx.y is not allowed (allowed: " ++
            String.intercalate ", " (Policy.standard.lists .allowedImports) ++ ")"] ∧
      contrary.lists .forbiddenImports = Policy.standard.lists .allowedImports ∧
      (["mathx.y", "os"] ++ ["math.pi"]).Perm ["math.pi", "mathx.y", "os"] ∧
      JudgesImports importingUnit importingTree Policy.standard := by
  obtain ⟨hwithin, hjudges⟩ :=
    imports_judged_by_segments importingUnit importingTree rfl Policy.standard
  refine ⟨rfl, ?_, ?_, rfl, ?_, hjudges⟩
  · rw [hwithin]
    decide
  · rw [hjudges.allowing.1]
    decide
  · exact (hjudges.parted contrary rfl [0] _ _ rfl (.modules rfl)).1

end Unit

end Rule

end Grader
