import Mathlib
import Grader.Source.Walk
import Grader.Proofs.Source.Tree

/-!
Python's abstract grammar: the sort of every node, and the sort of what each of its fields holds.
In a module that follows the grammar the chain above a statement leads through statements,
exception handlers and cases only, so that a statement never lies in the scope of a lambda.
-/

namespace Grader.Source

/-- The sorts of nodes. Symbols stand for operators and expression contexts. -/
inductive Category where
  | module | statement | expression | comprehension | handler | parameters | parameter | keyword
  | importAlias | withItem | matchCase | pattern | symbol
  deriving Repr, DecidableEq

namespace Label

def category : Label → Category
  | module => .module
  | functionDef _ | asyncFunctionDef _ | classDef _ | returnStmt | delete | assign | augAssign
  | annAssign | forLoop | asyncForLoop | whileLoop | ifStmt | withStmt | asyncWithStmt | matchStmt
  | raise | tryStmt | tryStarStmt | assertStmt | importStmt | importFrom _ _ | globalStmt
  | nonlocalStmt | exprStmt | pass | breakStmt | continueStmt => .statement
  | boolOp | namedExpr | binOp | unaryOp | lambda | ifExp | dict | set | listComp | setComp
  | dictComp | generatorExp | await | yieldExpr | yieldFrom | compare _ | call | formattedValue
  | joinedStr | constant _ | member _ | subscript | starred | name _ | list | tuple
  | slice => .expression
  | comprehension => .comprehension
  | exceptHandler => .handler
  | arguments => .parameters
  | arg _ => .parameter
  | keyword _ => .keyword
  | importAlias _ => .importAlias
  | withItem => .withItem
  | matchCase => .matchCase
  | matchValue | matchSingleton | matchSequence | matchMapping | matchClass | matchStar | matchAs
  | matchOr => .pattern
  | symbol _ => .symbol

/-- The fields of a node that hold nodes, in their order, and what they hold. Type comments are
not read, so that a module holds nothing but its statements. -/
def fields : Label → List (Field × Category)
  | module => [(.body, .statement)]
  | functionDef _ | asyncFunctionDef _ =>
    [(.args, .parameters), (.body, .statement), (.decorators, .expression),
      (.returns, .expression)]
  | classDef _ =>
    [(.bases, .expression), (.keywords, .keyword), (.body, .statement),
      (.decorators, .expression)]
  | returnStmt | exprStmt | await | yieldExpr | yieldFrom | matchValue | keyword _ =>
    [(.value, .expression)]
  | delete => [(.targets, .expression)]
  | assign => [(.targets, .expression), (.value, .expression)]
  | augAssign => [(.target, .expression), (.op, .symbol), (.value, .expression)]
  | annAssign => [(.target, .expression), (.typeHint, .expression), (.value, .expression)]
  | forLoop | asyncForLoop =>
    [(.target, .expression), (.iter, .expression), (.body, .statement), (.orElse, .statement)]
  | whileLoop | ifStmt => [(.test, .expression), (.body, .statement), (.orElse, .statement)]
  | withStmt | asyncWithStmt => [(.items, .withItem), (.body, .statement)]
  | matchStmt => [(.subject, .expression), (.cases, .matchCase)]
  | raise => [(.exc, .expression), (.cause, .expression)]
  | tryStmt | tryStarStmt =>
    [(.body, .statement), (.handlers, .handler), (.orElse, .statement), (.finalBody, .statement)]
  | assertStmt => [(.test, .expression), (.message, .expression)]
  | importStmt | importFrom _ _ => [(.names, .importAlias)]
  | globalStmt | nonlocalStmt | pass | breakStmt | continueStmt | constant _ | importAlias _
  | matchSingleton | matchStar | symbol _ => []
  | boolOp => [(.op, .symbol), (.values, .expression)]
  | namedExpr => [(.target, .expression), (.value, .expression)]
  | binOp => [(.left, .expression), (.op, .symbol), (.right, .expression)]
  | unaryOp => [(.op, .symbol), (.operand, .expression)]
  | lambda => [(.args, .parameters), (.body, .expression)]
  | ifExp => [(.test, .expression), (.body, .expression), (.orElse, .expression)]
  | dict => [(.keys, .expression), (.values, .expression)]
  | set => [(.elts, .expression)]
  | listComp | setComp | generatorExp => [(.elt, .expression), (.generators, .comprehension)]
  | dictComp => [(.key, .expression), (.value, .expression), (.generators, .comprehension)]
  | compare _ => [(.left, .expression), (.ops, .symbol), (.comparators, .expression)]
  | call => [(.func, .expression), (.args, .expression), (.keywords, .keyword)]
  | formattedValue => [(.value, .expression), (.formatSpec, .expression)]
  | joinedStr => [(.values, .expression)]
  | member _ | starred => [(.value, .expression), (.ctx, .symbol)]
  | subscript => [(.value, .expression), (.slice, .expression), (.ctx, .symbol)]
  | name _ => [(.ctx, .symbol)]
  | list | tuple => [(.elts, .expression), (.ctx, .symbol)]
  | slice => [(.lower, .expression), (.upper, .expression), (.step, .expression)]
  | comprehension => [(.target, .expression), (.iter, .expression), (.ifs, .expression)]
  | exceptHandler => [(.handled, .expression), (.body, .statement)]
  | arguments =>
    [(.posOnlyArgs, .parameter), (.args, .parameter), (.varArg, .parameter),
      (.kwOnlyArgs, .parameter), (.kwDefaults, .expression), (.kwArg, .parameter),
      (.defaults, .expression)]
  | arg _ => [(.typeHint, .expression)]
  | withItem => [(.contextExpr, .expression), (.optionalVars, .expression)]
  | matchCase => [(.pattern, .pattern), (.guard, .expression), (.body, .statement)]
  | matchSequence | matchOr => [(.patterns, .pattern)]
  | matchMapping => [(.keys, .expression), (.patterns, .pattern)]
  | matchClass => [(.cls, .expression), (.patterns, .pattern), (.kwdPatterns, .pattern)]
  | matchAs => [(.pattern, .pattern)]

/-- Whether a field of a node may hold a node with a given label. -/
def holds (parent : Label) (f : Field) (child : Label) : Bool :=
  parent.fields.contains (f, child.category)

end Label

/-- The sorts of nodes that statements stand in. -/
def Category.holdsStatements : Category → Bool
  | module | statement | handler | matchCase => true
  | _ => false

namespace Tree

mutual

/-- Whether every field in a tree holds what the grammar says. -/
def conforms : Tree → Bool
  | node _ l _ cs => conformsBelow l cs

/-- Whether the children of a node are what the grammar says, and so is what is below them. -/
def conformsBelow (parent : Label) : List Tree → Bool
  | [] => true
  | c :: cs => parent.holds c.field c.label && c.conforms && conformsBelow parent cs

end

/-- A module of Python's abstract grammar. -/
def IsModule (t : Tree) : Prop := t.label = .module ∧ t.conforms = true

instance (t : Tree) : Decidable t.IsModule := inferInstanceAs (Decidable (_ ∧ _))

theorem conformsBelow_iff {parent : Label} {cs : List Tree} :
    conformsBelow parent cs = true ↔
      ∀ c ∈ cs, parent.holds c.field c.label = true ∧ c.conforms = true := by
  induction cs with
  | nil => simp [conformsBelow]
  | cons c cs ih => simp [conformsBelow, ih]

theorem conforms_iff {t : Tree} :
    t.conforms = true ↔
      ∀ c ∈ t.children, t.label.holds c.field c.label = true ∧ c.conforms = true := by
  obtain ⟨f, l, s, cs⟩ := t
  rw [conforms, conformsBelow_iff]
  rfl

/-- What is in a tree that follows the grammar follows it too. -/
theorem conforms_of_at? {t u : Tree} {path : List Nat} (ht : t.conforms = true)
    (h : t.at? path = some u) : u.conforms = true :=
  inherit_of_at? (P := fun t => t.conforms = true) (fun _ h c hc => (conforms_iff.mp h c hc).2) ht h

end Tree

/-! ### The scope of a statement -/

/-- A node that statements do not stand in has no field for a part that they stand in. -/
theorem Label.all_fields (l : Label) :
    (l.category.holdsStatements || l.fields.all fun fk => !fk.2.holdsStatements) = true := by
  cases l <;> rfl

/-- What holds a statement, or a part that statements stand in, is itself such a part. -/
theorem Label.holdsStatements_of_holds {parent child : Label} {f : Field}
    (h : parent.holds f child = true) (hchild : child.category.holdsStatements = true) :
    parent.category.holdsStatements = true := by
  have hmem : (f, child.category) ∈ parent.fields := by simpa [holds] using h
  rcases Bool.or_eq_true_iff.mp parent.all_fields with hparent | hfields
  · exact hparent
  · have hno := List.all_eq_true.mp hfields _ hmem
    simp [hchild] at hno

/-- A part that statements stand in and that opens a scope is a module, a class or a function. -/
theorem Label.isScope_of_holdsStatements {l : Label} (hscope : l.isScope = true)
    (hl : l.category.holdsStatements = true) :
    l = .module ∨ l.isClass = true ∨ l.isFunction = true := by
  cases l <;> simp_all [isScope, category, Category.holdsStatements, isClass, isFunction]

/-- The nearest scope around a statement of a module is the module, a class or a function. -/
theorem exists_scopeIn_above {t v : Tree} {i : Nat} {path : List Nat} (ht : t.IsModule)
    (h : t.at? (i :: path) = some v) (hv : v.label.category.holdsStatements = true) :
    ∃ scope, scopeIn (t.above (i :: path)) = some scope ∧
      (scope.label = .module ∨ scope.label.isClass = true ∨ scope.label.isFunction = true) := by
  induction path generalizing i v with
  | nil =>
    refine ⟨t, ?_, .inl ht.1⟩
    rw [Tree.above_cons (Tree.at?_nil t), scopeIn, if_pos (by rw [ht.1]; rfl)]
  | cons j path ih =>
    obtain ⟨parent, hparent, hv'⟩ := Tree.at?_cons_eq_some.mp h
    have hholds := Tree.conforms_iff.mp (Tree.conforms_of_at? ht.2 hparent) v
      (List.mem_of_getElem? hv')
    have hstatements := Label.holdsStatements_of_holds hholds.1 hv
    rw [Tree.above_cons hparent, scopeIn]
    by_cases hscope : parent.label.isScope = true
    · exact ⟨parent, if_pos hscope, Label.isScope_of_holdsStatements hscope hstatements⟩
    · rw [if_neg hscope]
      exact ih hparent hstatements

end Grader.Source
