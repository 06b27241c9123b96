import Mathlib
import Grader.Proofs.Rule.GlobalVariables
import Grader.Proofs.Source.Literals

/-!
Constants of a module. A variable with the name of a constant is exempt if it is declared, or if its
value is an immutable literal, in which whatever can be changed is frozen. Lists and sets that stand
in displays pass for frozen, too, although they can be changed.
-/

namespace Grader

open Source

namespace Source

section Constant

variable {n : Node} {v : Tree} {name : String}

/-- The name of a constant does not begin with two underscores. -/
theorem isDunder_of_isConstantName (h : isConstantName name = true) : isDunder name = false := by
  by_contra hdunder
  obtain ⟨hstart, -⟩ := Bool.and_eq_true_iff.mp (Bool.of_not_eq_false hdunder)
  obtain ⟨rest, hrest⟩ := List.isPrefixOf_iff_prefix.mp hstart
  rw [isConstantName, ← hrest] at h
  cases h

/-- Statements that are exempt whatever containers their value makes: declarations without a value,
final ones, and declarations of types. -/
inductive Tree.IsDeclared (v : Tree) : Prop where
  | bare (label : v.label = .annAssign) (value : v.child? .value = none)
  | final (label : v.label = .annAssign) (hint : Tree) (typeHint : v.child? .typeHint = some hint)
      (isFinal : isFinal hint = true)
  | type (c : Tree) (value : v.child? .value = some c) (declares : declaresType c = true)

/-- Why a variable of a module is exempt that has the name of a constant. -/
theorem isDeclared_or_exists_isImmutableLiteral {scope : Tree} (hscope : n.scope = some scope)
    (hmodule : scope.label = .module) (hname : n.tree.Lists name)
    (hconstant : isConstantName name = true) (h : n.isConstant = true) :
    n.tree.IsDeclared ∨
      ∃ e, n.tree.child? .value = some e ∧ isImmutableLiteral false e = true := by
  have hclass : n.scopeClass = none := by
    rw [Node.scopeClass, hscope]
    simp [hmodule, Label.isClass]
  have hmem : name ∈ n.targets := mem_assignedNames.mpr hname
  have hempty : n.targets.isEmpty = false := by
    cases hn : n.targets with
    | nil => simp [hn] at hmem
    | cons _ _ => rfl
  have hdunder : n.targets.all isDunder = false :=
    List.all_eq_false.mpr ⟨name, hmem, by simp [isDunder_of_isConstantName hconstant]⟩
  rw [Node.isConstant, hempty, hdunder, hclass] at h
  simp only [Option.any_none, Bool.or_false, Bool.false_or, Bool.or_eq_true] at h
  rcases h with (hdeclaration | htype) | hliteral
  · left
    unfold Node.isDeclaration at hdeclaration
    split at hdeclaration
    case h_1 hl =>
      rw [hclass, Option.any_none, Bool.or_false, Bool.or_eq_true] at hdeclaration
      rcases hdeclaration with hvalue | hfinal
      · exact .bare hl (Option.isNone_iff_eq_none.mp hvalue)
      · obtain ⟨hint, hhint, hfinal⟩ := (Option.any_eq_true _ _).mp hfinal
        exact .final hl hint hhint hfinal
    case h_2 => cases hdeclaration
  · obtain ⟨c, hc, hdeclares⟩ := (Option.any_eq_true _ _).mp htype
    exact .inl (.type c hc hdeclares)
  · obtain ⟨-, hvalue⟩ := Bool.and_eq_true_iff.mp hliteral
    obtain ⟨e, he, hliteral⟩ := (Option.any_eq_true _ _).mp hvalue
    exact .inr ⟨e, he, hliteral⟩

/-- The value of a statement of a tree is an expression if the tree follows the grammar. -/
theorem isWellFormed_of_at? {t e : Tree} {path : List Nat} (ht : t.IsWellFormed)
    (hv : t.at? path = some v) (he : v.child? .value = some e) : e.IsWellFormed :=
  (Tree.inherit_of_at? (fun _ h _ hc => h.child hc) ht hv).child (List.mem_of_find?_eq_some he)

end Constant

end Source

namespace Rule

/-- What the rule about global variables makes of the constants of a module. -/
structure ExemptsConstants (u : SourceUnit) (t : Tree) (p : Policy) : Prop where
  /-- Of the global variables it reports those that are not exempt. -/
  reports : ReportsGlobals u t p
  /-- A variable of the module with the name of a constant that it does not report is declared, or
  bound to an immutable literal. -/
  exempt : ∀ path v name, t.at? path = some v → t.NearestScope path [] →
    v.label.isAssignment = true → v.Lists name → isConstantName name = true →
    (∀ n ∈ globalReports u, n.path ≠ path) →
      v.IsDeclared ∨ ∃ e, v.child? .value = some e ∧ isImmutableLiteral false e = true ∧
        e.IsSoundLiteral

section Unit

variable {u : SourceUnit} {t : Tree}

theorem exemptsConstants (h : u.tree? = some t) (hmodule : t.label = .module)
    (ht : t.IsWellFormed) (p : Policy) : ExemptsConstants u t p where
  reports := reportsGlobals h p
  exempt path v name hv hs hassignment hname hconstant hreport := by
    obtain ⟨n, hn, rfl, rfl, hscope⟩ :=
      exists_field h hv hs rfl hassignment (by rw [hmodule]; rfl)
    have hexempt : n.isConstant = true := by
      by_contra hexempt
      obtain ⟨m, hm, hpath⟩ :=
        (exists_mem_globalReports_iff h hn).mpr (by simpa using hexempt)
      exact hreport m hm hpath
    rcases isDeclared_or_exists_isImmutableLiteral hscope hmodule hname hconstant hexempt with
      hdeclared | ⟨e, he, hliteral⟩
    · exact .inl hdeclared
    · exact .inr ⟨e, he, hliteral, isSoundLiteral (isWellFormed_of_at? ht hv he) hliteral⟩

/-- An expression passes for an immutable literal exactly if it is plain and what makes a container in
it is frozen through operators and displays, and a variable of a module with the name of a constant
is declared or bound to such a literal unless it is reported. -/
theorem constants_bind_sound_literals (u : SourceUnit) (t : Tree) (h : u.tree? = some t)
    (hmodule : t.label = .module) (ht : t.IsWellFormed) (p : Policy) :
    (∀ e : Tree, e.IsWellFormed →
      (isImmutableLiteral false e = true ↔
        e.IsPlain ∧ e.FreezesContainers Label.isTransparent []) ∧
      (isImmutableLiteral false e = true → e.IsSoundLiteral)) ∧
    ExemptsConstants u t p :=
  ⟨fun _ he => ⟨isImmutableLiteral_iff he, isSoundLiteral he⟩, exemptsConstants h hmodule ht p⟩

/-- The display of a list of one number. -/
def numberList (f : Field) (l : Location) : Source.Tree :=
  .node f .list (some l) [
    .node .elts (.constant (.number false)) (some ⟨l.line, l.column + 1⟩) []]

/-- The value `tuple([1] + [2])`. -/
def frozenSum : Source.Tree :=
  .node .value .call (some ⟨1, 4⟩) [
    .node .func (.name "tuple") (some ⟨1, 4⟩) [],
    .node .args .binOp (some ⟨1, 10⟩) [
      numberList .left ⟨1, 10⟩, numberList .right ⟨1, 16⟩]]

/-- The value `tuple([[1], [2]])`. -/
def nestedLists : Source.Tree :=
  .node .value .call (some ⟨2, 4⟩) [
    .node .func (.name "tuple") (some ⟨2, 4⟩) [],
    .node .args .list (some ⟨2, 10⟩) [
      numberList .elts ⟨2, 11⟩, numberList .elts ⟨2, 16⟩]]

/-- Two constants:

    A = tuple([1] + [2])
    B = tuple([[1], [2]])
-/
def constantsTree : Tree :=
  .node .root .module none [
    .node .body .assign (some ⟨1, 0⟩) [
      .node .targets (.name "A") (some ⟨1, 0⟩) [], frozenSum],
    .node .body .assign (some ⟨2, 0⟩) [
      .node .targets (.name "B") (some ⟨2, 0⟩) [], nestedLists]]

def constantsUnit : SourceUnit := ⟨"constants.py", .parsed constantsTree⟩

theorem numberList_gives (f : Field) (l : Location) : (numberList f l).Gives (.mutable [.atom]) :=
  .list rfl (.cons (.constant rfl) .nil)

/-- The first value is a tuple of two numbers. -/
theorem frozenSum_gives : frozenSum.Gives (.fixed [.atom, .atom]) := by
  have hsum : (Source.Tree.node .args .binOp (some ⟨1, 10⟩)
      [numberList .left ⟨1, 10⟩, numberList .right ⟨1, 16⟩]).Gives (.mutable [.atom, .atom]) :=
    .operation rfl (.cons (numberList_gives ..) (.cons (numberList_gives ..) .nil))
      ⟨by simp [Object.parts], by simp [Object.isMutable]⟩
  exact .freezing rfl (.cons hsum .nil) ⟨by simp [Object.parts], rfl⟩

/-- The second value is a tuple of two lists. -/
theorem nestedLists_gives :
    nestedLists.Gives (.fixed [.mutable [.atom], .mutable [.atom]]) := by
  have hlist : (Source.Tree.node .args .list (some ⟨2, 10⟩)
      [numberList .elts ⟨2, 11⟩, numberList .elts ⟨2, 16⟩]).Gives
        (.mutable [.mutable [.atom], .mutable [.atom]]) :=
    .list rfl (.cons (numberList_gives ..) (.cons (numberList_gives ..) .nil))
  exact .freezing rfl (.cons hlist .nil) ⟨by simp [Object.parts], rfl⟩

/-- In the first value the lists are frozen through an operator, so that nothing in it can be
changed. It is a constant, and neither of the two is reported. -/
theorem constants_bind_sound_literals_frozen :
    constantsUnit.tree? = some constantsTree ∧ constantsTree.label = .module ∧
      constantsTree.IsWellFormed ∧ frozenSum.IsWellFormed ∧
      isImmutableLiteral false frozenSum = true ∧ frozenSum.IsSoundLiteral ∧
      frozenSum.FreezesContainers Label.isOperator [] ∧
      frozenSum.Gives (.fixed [.atom, .atom]) ∧ (Object.fixed [.atom, .atom]).IsImmutable ∧
      ((ofName .globalVariables).check constantsUnit Policy.standard).violations = [] ∧
      ExemptsConstants constantsUnit constantsTree Policy.standard := by
  have hwell : constantsTree.IsWellFormed := ⟨by decide, by decide⟩
  have hsum : frozenSum.IsWellFormed := ⟨by decide, by decide⟩
  obtain ⟨hsound, hexempts⟩ :=
    constants_bind_sound_literals constantsUnit constantsTree rfl rfl hwell Policy.standard
  have hliteral := (hsound frozenSum hsum).2 (by decide)
  have hfreezes : frozenSum.FreezesContainers Label.isOperator [] := by
    simp only [frozenSum, numberList, freezesContainers_node_iff, List.forall_mem_cons,
      List.not_mem_nil, IsEmpty.forall_iff, implies_true, and_true]
    decide
  refine ⟨rfl, rfl, hwell, hsum, by decide, hliteral, hfreezes, frozenSum_gives, ?_, ?_, hexempts⟩
  · exact hliteral.immutable hfreezes _ frozenSum_gives
  · rw [hexempts.reports.found]
    decide

/-- The second value has lists in a list, which is frozen. They pass for frozen and can be changed,
and the constant that holds them is not reported. -/
theorem nested_display_unreported :
    isImmutableLiteral false nestedLists = true ∧
      (∃ d, nestedLists.at? [0, 1] = some d ∧ d.label = .list ∧
        d.isElementIn (nestedLists.above [0, 1]) = true ∧
        d.isFrozenIn Label.isOperator (nestedLists.above [0, 1]) = false) ∧
      nestedLists.Gives (.fixed [.mutable [.atom], .mutable [.atom]]) ∧
      ¬ (Object.fixed [.mutable [.atom], .mutable [.atom]]).IsImmutable ∧
      (∃ v, constantsTree.at? [1] = some v ∧ v.Lists "B" ∧ v.child? .value = some nestedLists) ∧
      isConstantName "B" = true ∧
      ((ofName .globalVariables).check constantsUnit Policy.standard).violations = [] := by
  refine ⟨by decide, ⟨_, rfl, rfl, by decide, by decide⟩, nestedLists_gives, ?_, ?_, by decide, ?_⟩
  · intro himmutable
    have hlist := himmutable (.mutable [.atom]) (.single (by simp [Object.parts]))
    cases hlist
  · exact ⟨_, rfl, mem_assignedNames.mp (by decide), rfl⟩
  · decide

end Unit

end Rule

end Grader
