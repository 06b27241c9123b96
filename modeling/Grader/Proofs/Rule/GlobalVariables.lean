import Mathlib
import Grader.Rule.Catalogue
import Grader.Proofs.Source.Bindings
import Grader.Proofs.Source.Selection

/-!
Global variables. The rule looks at the assignments in the scopes of modules and classes, by the
names that they list. A plain assignment is reported if it lists a name that is not that of a
constant, and it is not if it lists nothing, whatever it binds deeper in its targets.
-/

namespace Grader

open Source

namespace Source

section Constant

variable {v scope : Tree} {n : Node} {name : String}

/-- A name that a statement binds and lists. -/
def Tree.Lists (v : Tree) (name : String) : Prop :=
  ∃ b ∈ v.bindings, b.isShallow = true ∧ b.name = name

theorem mem_assignedNames : name ∈ assignedNames v ↔ v.Lists name := by
  simp [assignedNames_eq, Tree.Lists, and_assoc]

/-- Whether the value of a statement, if it has one, is an immutable literal. -/
def Tree.hasImmutableValue (v : Tree) : Bool := (v.child? .value).any (isImmutableLiteral false)

/-- A plain assignment outside of enumerations whose value declares no type. -/
structure Tree.IsPlainAssignment (v scope : Tree) : Prop where
  label : v.label = .assign
  scope : scope.label = .module ∨ scope.label.isClass = true ∧ isEnumeration scope = false
  value : ∀ c, v.child? .value = some c → declaresType c = false

theorem Tree.IsPlainAssignment.holdsFields (h : v.IsPlainAssignment scope) :
    scope.label.holdsFields = true := by
  rcases h.scope with hl | ⟨hl, -⟩
  · rw [hl]; rfl
  · cases hscope : scope.label <;> simp_all [Label.isClass, Label.holdsFields]

/-- Such an assignment is exempt for dunder names, or for constant names of an immutable literal. -/
theorem Tree.IsPlainAssignment.isConstant_iff (h : n.tree.IsPlainAssignment scope)
    (hscope : n.scope = some scope) : n.isConstant = true ↔
      (∀ name, n.tree.Lists name → isDunder name = true) ∨
        (∀ name, n.tree.Lists name → isConstantName (Text.Dotted.lastSegment name) = true) ∧
          n.tree.hasImmutableValue = true := by
  have hdeclares : (n.tree.child? .value).any declaresType = false := by
    cases hc : n.tree.child? .value with
    | none => rfl
    | some c => exact h.value c hc
  have henumeration : n.scopeClass.any isEnumeration = false := by
    rw [Node.scopeClass, hscope]
    rcases h.scope with hl | ⟨hl, henum⟩
    · simp [hl, Label.isClass]
    · simp [hl, henum]
  have hdeclaration : n.isDeclaration = false := by
    rw [Node.isDeclaration, h.label]
  -- A statement that lists nothing lists dunder names only.
  have hempty : (n.targets.isEmpty || n.targets.all isDunder) = n.targets.all isDunder := by
    cases n.targets <;> rfl
  rw [Node.isConstant, hempty, hdeclares, henumeration, hdeclaration, Node.bindsLiteral]
  simp only [Bool.or_false, Bool.or_eq_true, Bool.and_eq_true, List.all_eq_true, Node.targets,
    mem_assignedNames]
  rfl

end Constant

end Source

namespace Rule

/-- The fields that are no constants. -/
def globalReports (u : SourceUnit) : List Node := (u.select .field).filter fun n => !n.isConstant

/-- What the rule makes of the global variables of a unit. -/
structure ReportsGlobals (u : SourceUnit) (t : Tree) (p : Policy) : Prop where
  /-- Reported are fields that are no constants, with the names that they list, -/
  found : (ofName .globalVariables).check u p = ⟨(globalReports u).map fun n =>
    (at' u n s!"Global variables are not allowed: {n.name} (only constants)").violation
      RuleName.globalVariables.text .ordinary u, none⟩
  /-- each of them once -/
  once : ((globalReports u).map (·.path)).Nodup
  /-- and in document order. -/
  in_order : (globalReports u).Sublist u.nodes
  /-- A plain assignment is reported exactly if it lists a name without two underscores at both ends
  and, unless its value is no immutable literal, a name that is not that of a constant. -/
  exact : ∀ path v s scope, t.at? path = some v → t.NearestScope path s → t.at? s = some scope →
    v.IsPlainAssignment scope →
      ((∃ n ∈ globalReports u, n.path = path) ↔
        (∃ name, v.Lists name ∧ isDunder name = false) ∧
        ((∃ name, v.Lists name ∧ isConstantName (Text.Dotted.lastSegment name) = false) ∨
          v.hasImmutableValue = false))

section Unit

variable {u : SourceUnit} {t v scope : Tree} {path s : List Nat}

/-- An assignment in the scope of a module or of a class is a field. -/
theorem exists_field (h : u.tree? = some t) (hv : t.at? path = some v)
    (hs : t.NearestScope path s) (hat : t.at? s = some scope)
    (hassignment : v.label.isAssignment = true) (hholds : scope.label.holdsFields = true) :
    ∃ n ∈ u.select .field, n.path = path ∧ n.tree = v ∧ n.scope = some scope := by
  have hscope : scopeIn (t.above path) = some scope := (Tree.scopeIn_above hv).mpr ⟨s, hs, hat⟩
  have hfield : v.label.isAssignment = true ∧
      (scopeIn (t.above path)).any (·.label.holdsFields) = true := by
    rw [hscope]
    exact ⟨hassignment, hholds⟩
  obtain ⟨n, hn, rfl, rfl⟩ := (SourceUnit.exists_mem_select_iff h (tells_field t)).mpr ⟨hv, hfield⟩
  have hnodes := ((SourceUnit.mem_select_iff h (by decide)).mp hn).1
  refine ⟨n, hn, rfl, rfl, ?_⟩
  rw [Node.scope, (faithful_of_mem_nodes hnodes).2, hscope]

/-- A field is reported unless it is a constant. -/
theorem exists_mem_globalReports_iff (h : u.tree? = some t) {n : Node} (hn : n ∈ u.select .field) :
    (∃ m ∈ globalReports u, m.path = n.path) ↔ n.isConstant = false := by
  constructor
  · rintro ⟨m, hm, hpath⟩
    obtain ⟨hm, hconstant⟩ := List.mem_filter.mp hm
    obtain rfl := List.inj_on_of_nodup_map (SourceUnit.nodup_paths_select h .field) hm hn hpath
    simpa using hconstant
  · intro hconstant
    exact ⟨n, List.mem_filter.mpr ⟨hn, by simp [hconstant]⟩, rfl⟩

theorem reportsGlobals (h : u.tree? = some t) (p : Policy) : ReportsGlobals u t p where
  found := by
    change (⟨(globalFindings u p).map _, none⟩ : Yield) = _
    have hfindings : globalFindings u p = (u.select .field).filterMap fun n =>
        if !n.isConstant then
          some (at' u n s!"Global variables are not allowed: {n.name} (only constants)")
        else none := by
      refine List.filterMap_congr fun n _ => ?_
      cases n.isConstant <;> rfl
    rw [hfindings, filterMap_ite, List.map_map]
    rfl
  once := (SourceUnit.nodup_paths_select h .field).sublist (List.filter_sublist.map _)
  in_order := List.filter_sublist.trans (SourceUnit.select_sublist_nodes h .field)
  exact path v s scope hv hs hat hplain := by
    obtain ⟨n, hn, rfl, rfl, hscope⟩ :=
      exists_field h hv hs hat (by rw [hplain.label]; rfl) hplain.holdsFields
    rw [exists_mem_globalReports_iff h hn, ← Bool.not_eq_true, hplain.isConstant_iff hscope, not_or,
      not_and_or]
    simp only [not_forall, Bool.not_eq_true, exists_prop]

/-- A statement lists the names that it binds in one tuple or list at most, which are all exactly if
nothing is nested deeper, and by these names global variables are reported. -/
theorem shallow_targets_listed (u : SourceUnit) (t : Tree) (h : u.tree? = some t) (p : Policy) :
    (∀ n : Node, n.targets = (n.tree.bindings.filter Binding.isShallow).map Binding.name ∧
      (n.targets = n.tree.bindings.map Binding.name ↔
        ∀ b ∈ n.tree.bindings, b.isShallow = true)) ∧
    ReportsGlobals u t p :=
  ⟨fun n => ⟨assignedNames_eq n.tree, assignedNames_eq_iff⟩, reportsGlobals h p⟩

/-- Two assignments, the first of which nests its targets:

    A, (b, c) = 1, (2, 3)
    d, *e = x.f = ()
-/
def unpackingTree : Tree :=
  let named (f : Field) (name : String) (l : Location) : Tree := .node f (.name name) (some l) []
  let number (l : Location) : Tree := .node .elts (.constant (.number false)) (some l) []
  .node .root .module none [
    .node .body .assign (some ⟨1, 0⟩) [
      .node .targets .tuple (some ⟨1, 0⟩) [
        named .elts "A" ⟨1, 0⟩,
        .node .elts .tuple (some ⟨1, 3⟩) [named .elts "b" ⟨1, 4⟩, named .elts "c" ⟨1, 7⟩]],
      .node .value .tuple (some ⟨1, 12⟩) [
        number ⟨1, 12⟩,
        .node .elts .tuple (some ⟨1, 15⟩) [number ⟨1, 16⟩, number ⟨1, 19⟩]]],
    .node .body .assign (some ⟨2, 0⟩) [
      .node .targets .tuple (some ⟨2, 0⟩) [
        named .elts "d" ⟨2, 0⟩,
        .node .elts .starred (some ⟨2, 3⟩) [named .value "e" ⟨2, 4⟩]],
      .node .targets (.member "f") (some ⟨2, 8⟩) [named .value "x" ⟨2, 8⟩],
      .node .value .tuple (some ⟨2, 14⟩) []]]

def unpackingUnit : SourceUnit := ⟨"unpacking.py", .parsed unpackingTree⟩

/-- Nothing is nested deeper in the second assignment, which lists all of its names in order and is
reported for them. -/
theorem shallow_targets_listed_chained :
    unpackingUnit.tree? = some unpackingTree ∧
      (unpackingUnit.select .field).map (·.targets) = [["A"], ["d", "e", "x.f"]] ∧
      (unpackingUnit.select .field).map (fun n => n.tree.bindings.map Binding.name) =
        [["A", "b", "c"], ["d", "e", "x.f"]] ∧
      ((ofName .globalVariables).check unpackingUnit Policy.standard).violations.map (·.message) =
        ["Global variables are not allowed: d, e, x.f (only constants)"] ∧
      ReportsGlobals unpackingUnit unpackingTree Policy.standard := by
  obtain ⟨-, hreports⟩ :=
    shallow_targets_listed unpackingUnit unpackingTree rfl Policy.standard
  refine ⟨rfl, by decide, by decide, ?_, hreports⟩
  rw [hreports.found]
  decide

/-- The first assignment binds two names that are not those of constants. It does not list them, so
that it passes for one of constants and is not reported. -/
theorem nested_targets_unreported :
    ∃ v, unpackingTree.at? [0] = some v ∧ v.IsPlainAssignment unpackingTree ∧
      v.bindings.map Binding.name = ["A", "b", "c"] ∧ assignedNames v = ["A"] ∧
      isDunder "b" = false ∧ isConstantName (Text.Dotted.lastSegment "b") = false ∧
      ∀ w ∈ ((ofName .globalVariables).check unpackingUnit Policy.standard).violations,
        w.position.line ≠ 1 := by
  refine ⟨_, rfl, ⟨rfl, .inl rfl, ?_⟩, by decide, by decide, by decide, by decide, by decide⟩
  intro c hc
  obtain rfl := Option.some.inj hc
  rfl

end Unit

end Rule

end Grader
