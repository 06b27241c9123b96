import Mathlib
import Grader.Rule.Catalogue
import Grader.Proofs.Source.Chains
import Grader.Proofs.Source.Selection

/-!
Calls. Two rules report a call for the whole name of what it calls and one for the last segment of
that name. The names lose nothing: a call is reported for its callee being a listed chain, or for
the final identifier of its callee, and never because something has no name.
-/

namespace Grader

open Source

namespace Source

/-- A tree is a call of this callee. -/
def Tree.Calls (t callee : Tree) : Prop := t.label = .call ∧ t.child? .func = some callee

/-- The dotted name of an expression with such identifiers says which chain the expression is, and a
name says which chain is called. -/
structure Tree.NamesChain (t : Tree) : Prop where
  /-- The segments of the dotted name are the identifiers of the chain, -/
  exact : ∀ s, dottedName t = some s ↔ t.IsChain (Text.Dotted.segments s)
  /-- of which there is one at most; -/
  unique : ∀ ids ids', t.IsChain ids → t.IsChain ids' → ids = ids'
  /-- every chain has a dotted name and nothing else has one; -/
  defined : (∃ s, dottedName t = some s) ↔ ∃ ids, t.IsChain ids
  /-- and what has the same dotted name is the same chain. -/
  injective : ∀ t' s, t'.all Tree.isWellNamed = true → dottedName t = some s →
    dottedName t' = some s → ∀ ids, t.IsChain ids ↔ t'.IsChain ids
  /-- A call is called by a name that is no placeholder if its callee is the chain of the name. -/
  called : ∀ e, e.toList.head? ≠ some '?' →
    (callName t = e ↔ ∃ c, t.child? .func = some c ∧ c.IsChain (Text.Dotted.segments e))

theorem Tree.namesChain {t : Tree} (ht : t.all Tree.isWellNamed = true) : t.NamesChain where
  exact _ := dottedName_eq_some_iff_isChain ht
  unique _ _ h h' := h.unique h'
  defined := by
    constructor
    · rintro ⟨s, hs⟩
      exact ⟨_, isChain_of_dottedName ht hs⟩
    · rintro ⟨ids, h⟩
      obtain ⟨s, hs, -⟩ := h.exists_dottedName ht
      exact ⟨s, hs⟩
  injective t' s ht' hs hs' ids := by
    have h := isChain_of_dottedName ht hs
    have h' := isChain_of_dottedName ht' hs'
    constructor
    · intro hids
      rwa [hids.unique h]
    · intro hids
      rwa [hids.unique h']
  called _ he := callName_eq_iff ht he

end Source

namespace Rule

/-- The calls of what is listed under its whole name. -/
def namedCalls (u : SourceUnit) (names : List String) : List Node :=
  (u.select .call).filter fun n => names.contains n.name

/-- The calls of what is listed under the last segment of its name. -/
def lastNamedCalls (u : SourceUnit) (names : List String) : List Node :=
  (u.select .call).filter fun n => names.contains (Text.Dotted.lastSegment n.name)

section Unit

variable {u : SourceUnit} {t : Tree} {n : Node} {names : List String}

theorem intrinsicKind_eq_call_iff {l : Label} : l.intrinsicKind = some .call ↔ l = .call := by
  cases l <;> simp [Label.intrinsicKind, Label.loopName]

theorem intrinsicKind_eq_loop_iff {l : Label} :
    l.intrinsicKind = some .loop ↔ l.loopName.isSome = true := by
  cases l <;> simp [Label.intrinsicKind, Label.loopName]

/-- A call shows what it is called by. -/
theorem name_of_mem_select_call (h : u.tree? = some t) (hn : n ∈ u.select .call) :
    n.tree.label = .call ∧ t.at? n.path = some n.tree ∧ n.name = callName n.tree := by
  obtain ⟨hkind, hat, hlabel⟩ := SourceUnit.kind_of_mem_select h (tells_intrinsic t rfl) hn
  have hl := intrinsicKind_eq_call_iff.mp hlabel
  refine ⟨hl, hat, ?_⟩
  simp only [Node.name, hkind, hl, Label.definedName]

theorem collects_namedCalls (h : u.tree? = some t) (ht : t.all Tree.isWellNamed = true)
    (hnames : ∀ e ∈ names, e.toList.head? ≠ some '?') :
    u.Collects t (fun _ v => ∃ c, v.Calls c ∧
      ∃ e ∈ names, c.IsChain (Text.Dotted.segments e)) (namedCalls u names) := by
  refine SourceUnit.collects_filter_select h (tells_intrinsic t rfl) ?_ ?_
  · rintro path v ⟨c, hcalls, -⟩
    exact intrinsicKind_eq_call_iff.mpr hcalls.1
  · intro n hn
    obtain ⟨hl, hat, hname⟩ := name_of_mem_select_call h hn
    have htree := Tree.all_of_at? ht hat
    rw [hname, List.contains_iff_mem]
    constructor
    · intro hmem
      obtain ⟨c, hc, hchain⟩ := (callName_eq_iff htree (hnames _ hmem)).mp rfl
      exact ⟨c, ⟨hl, hc⟩, _, hmem, hchain⟩
    · rintro ⟨c, ⟨-, hc⟩, e, hmem, hchain⟩
      rwa [(callName_eq_iff htree (hnames e hmem)).mpr ⟨c, hc, hchain⟩]

theorem collects_lastNamedCalls (h : u.tree? = some t) (ht : t.all Tree.isWellNamed = true)
    (hnames : "?" ∉ names) :
    u.Collects t (fun _ v => ∃ c id, v.Calls c ∧ c.label.identifier? = some id ∧ id ∈ names)
      (lastNamedCalls u names) := by
  refine SourceUnit.collects_filter_select h (tells_intrinsic t rfl) ?_ ?_
  · rintro path v ⟨c, id, hcalls, -⟩
    exact intrinsicKind_eq_call_iff.mpr hcalls.1
  · intro n hn
    obtain ⟨hl, hat, hname⟩ := name_of_mem_select_call h hn
    rw [hname, List.contains_iff_mem,
      lastSegment_callName_mem_iff (Tree.all_of_at? ht hat) hnames]
    exact ⟨fun ⟨c, id, hc, hid⟩ => ⟨c, id, ⟨hl, hc⟩, hid⟩,
      fun ⟨c, id, ⟨_, hc⟩, hid⟩ => ⟨c, id, hc, hid⟩⟩

theorem collects_loops (h : u.tree? = some t) :
    u.Collects t (fun _ v => v.label.loopName.isSome = true) (u.select .loop) := by
  have hall : (u.select .loop).filter (fun _ => true) = u.select .loop := List.filter_true _
  rw [← hall]
  refine SourceUnit.collects_filter_select h (tells_intrinsic t rfl) ?_ ?_
  · intro path v hv
    exact intrinsicKind_eq_loop_iff.mpr hv
  · intro n hn
    obtain ⟨-, -, hlabel⟩ := SourceUnit.kind_of_mem_select h (tells_intrinsic t rfl) hn
    simp [intrinsicKind_eq_loop_iff.mp hlabel]

end Unit

/-! ### The three rules -/

/-- What a rule on the whole names of calls makes of a unit, in its own words. -/
structure ReportsCallees (u : SourceUnit) (t : Tree) (p : Policy) (rule : RuleName)
    (names : List String) (wording : String) : Prop where
  /-- Reported are calls by what they are called by, -/
  found : (ofName rule).check u p = ⟨(namedCalls u names).map fun n =>
    (at' u n (wording ++ n.name ++ "()")).violation rule.text (severityOf rule) u, none⟩
  /-- and if no listed name begins like a placeholder, then these are the calls of which the callee
  is a listed chain, each of them once. -/
  exact : (∀ e ∈ names, e.toList.head? ≠ some '?') →
    u.Collects t (fun _ v => ∃ c, v.Calls c ∧ ∃ e ∈ names, c.IsChain (Text.Dotted.segments e))
      (namedCalls u names)

def loopFinding (u : SourceUnit) (n : Node) : Finding :=
  at' u n (n.label ++ " is not allowed, use recursion instead")

def iterationFinding (u : SourceUnit) (n : Node) : Finding :=
  let callee := Text.Dotted.lastSegment n.name
  at' u n s!"internal iteration via {callee}() is not allowed, use recursion instead"

/-- What the rule on loops makes of a unit. -/
structure ReportsLoops (u : SourceUnit) (t : Tree) (p : Policy) : Prop where
  /-- Reported are loops, and then calls that iterate: -/
  found : (ofName .loops).check u p = ⟨((u.select .loop).map (loopFinding u) ++
      (lastNamedCalls u (p.lists .iterationCalls)).map (iterationFinding u)).map
    (Finding.violation RuleName.loops.text .ordinary u), none⟩
  /-- every loop once, -/
  loops : u.Collects t (fun _ v => v.label.loopName.isSome = true) (u.select .loop)
  /-- and, if the placeholder is not listed, every call once of which the callee ends in a listed
  identifier. -/
  iterations : "?" ∉ p.lists .iterationCalls →
    u.Collects t
      (fun _ v => ∃ c id, v.Calls c ∧ c.label.identifier? = some id ∧ id ∈ p.lists .iterationCalls)
      (lastNamedCalls u (p.lists .iterationCalls))

/-- What the rules on calls make of a unit. -/
structure JudgesCalls (u : SourceUnit) (t : Tree) (p : Policy) : Prop where
  console : ReportsCallees u t p .consoleOutput (p.lists .consoleCalls)
    "Console output is not allowed: "
  cheats : ReportsCallees u t p .cheatCalls (p.lists .forbiddenCalls) "[CHEAT] Forbidden call: "
  loops : ReportsLoops u t p

section Rules

variable {u : SourceUnit} {t : Tree}

theorem judgesCalls (h : u.tree? = some t) (ht : t.all Tree.isWellNamed = true) (p : Policy) :
    JudgesCalls u t p where
  console := by
    refine ⟨?_, collects_namedCalls h ht⟩
    change (⟨(consoleFindings u p).map _, none⟩ : Yield) = _
    rw [consoleFindings, filterMap_ite, List.map_map]
    rfl
  cheats := by
    refine ⟨?_, collects_namedCalls h ht⟩
    change (⟨(cheatCallFindings u p).map _, none⟩ : Yield) = _
    rw [cheatCallFindings, filterMap_ite, List.map_map]
    rfl
  loops := by
    refine ⟨?_, collects_loops h, collects_lastNamedCalls h ht⟩
    change (⟨(loopFindings u p).map _, none⟩ : Yield) = _
    rw [loopFindings, filterMap_ite]
    rfl

/-- Where identifiers have neither dots nor question marks in them, dotted names identify chains and
callees, and calls are reported for their callees. -/
theorem callees_identified (u : SourceUnit) (t : Tree) (h : u.tree? = some t)
    (ht : t.all Tree.isWellNamed = true) (p : Policy) :
    (∀ e : Tree, e.all Tree.isWellNamed = true → e.NamesChain) ∧ JudgesCalls u t p :=
  ⟨fun _ he => Tree.namesChain he, judgesCalls h ht p⟩

/-- Calls of a chain, of an attribute of a call, of an attribute of a list and of a chain again:

    sys.stdout.write(1)
    f().print()
    [].map(f)
    os._exit(1)
-/
def callingTree : Tree :=
  let named (f : Field) (name : String) (l : Location) : Tree := .node f (.name name) (some l) []
  let member (f : Field) (attr : String) (base : Tree) (l : Location) : Tree :=
    .node f (.member attr) (some l) [base]
  let one (l : Location) : Tree := .node .args (.constant (.number false)) (some l) []
  let call (f : Field) (callee : Tree) (args : List Tree) (l : Location) : Tree :=
    .node f .call (some l) (callee :: args)
  let statement (callee : Tree) (args : List Tree) (l : Location) : Tree :=
    .node .body .exprStmt (some l) [call .value callee args l]
  .node .root .module none [
    statement (member .func "write"
        (member .value "stdout" (named .value "sys" ⟨1, 0⟩) ⟨1, 0⟩) ⟨1, 0⟩) [one ⟨1, 17⟩] ⟨1, 0⟩,
    statement (member .func "print" (call .value (named .func "f" ⟨2, 0⟩) [] ⟨2, 0⟩) ⟨2, 0⟩) []
      ⟨2, 0⟩,
    statement (member .func "map" (.node .value .list (some ⟨3, 0⟩) []) ⟨3, 0⟩)
      [named .args "f" ⟨3, 7⟩] ⟨3, 0⟩,
    statement (member .func "_exit" (named .value "os" ⟨4, 0⟩) ⟨4, 0⟩) [one ⟨4, 9⟩] ⟨4, 0⟩]

def callingUnit : SourceUnit := ⟨"calling.py", .parsed callingTree⟩

/-- The attribute of a call is no output, whatever it is called, while the attribute of a list
iterates. -/
theorem callees_identified_calling :
    callingUnit.tree? = some callingTree ∧ callingTree.all Tree.isWellNamed = true ∧
      (∀ e ∈ Policy.standard.lists .consoleCalls, e.toList.head? ≠ some '?') ∧
      ((ofName .consoleOutput).check callingUnit Policy.standard).violations.map (·.message) =
        ["Console output is not allowed: sys.stdout.write()"] ∧
      ((ofName .cheatCalls).check callingUnit Policy.standard).violations.map (·.message) =
        ["[CHEAT] Forbidden call: os._exit()"] ∧
      ((ofName .loops).check callingUnit Policy.standard).violations.map (·.message) =
        ["internal iteration via map() is not allowed, use recursion instead"] ∧
      (∃ v, callingTree.at? [0, 0, 0] = some v ∧ v.IsChain ["sys", "stdout", "write"]) ∧
      JudgesCalls callingUnit callingTree Policy.standard := by
  have hnamed : callingTree.all Tree.isWellNamed = true := by decide
  obtain ⟨hnames, hjudges⟩ := callees_identified callingUnit callingTree rfl hnamed Policy.standard
  refine ⟨rfl, hnamed, by decide, ?_, ?_, ?_, ?_, hjudges⟩
  · rw [hjudges.console.found]
    decide
  · rw [hjudges.cheats.found]
    decide
  · rw [hjudges.loops.found]
    decide
  · have hsegments :
        Text.Dotted.segments "sys.stdout.write" = ["sys", "stdout", "write"] := by decide
    rw [← hsegments]
    exact ⟨_, rfl, ((hnames _ (by decide)).exact "sys.stdout.write").mp (by decide)⟩

end Rules

end Rule

end Grader
