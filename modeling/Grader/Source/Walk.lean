import Grader.Source.Tree

/-!
The traversal of a tree in document order. Every occurrence of a node comes with the chain of its
ancestors, with its path, which tells equal subtrees apart, and with the annotation it lies in.
-/

namespace Grader.Source

/-- What an annotation annotates. -/
inductive Role where
  | returned | parameter | localVariable | field
  deriving Repr, DecidableEq

def Role.text : Role → String
  | returned => "return"
  | parameter => "parameter"
  | localVariable => "variable"
  | field => "field"

/-- A node at its place in the tree. -/
structure Occurrence where
  tree : Tree
  /-- The ancestors, the parent first and the root last. -/
  ancestors : List Tree
  /-- The indices that lead to the node, the last step first. -/
  path : List Nat
  /-- The role of the outermost annotation around the node. -/
  role : Option Role

/-- The nearest ancestor that opens a scope, with the number of ancestors below it. -/
def scopeIn : List Tree → Option Tree
  | [] => none
  | t :: ts => if t.label.isScope then some t else scopeIn ts

/-- The role that an edge of the tree opens: the return annotation of a function, the annotation
of a parameter, or that of an annotated assignment, whose role depends on the scope around it. -/
def annotationRole (parent : Label) (f : Field) (ancestors : List Tree) : Option Role :=
  match parent, f with
  | .functionDef _, .returns => some .returned
  | .asyncFunctionDef _, .returns => some .returned
  | .arg _, .typeHint => some .parameter
  | .annAssign, .typeHint =>
    match scopeIn ancestors with
    | some scope => if scope.label.isFunction then some .localVariable else some .field
    | none => some .field
  | _, _ => none

mutual

/-- The node itself and then everything below it, siblings in the order of their places. -/
def walk (ancestors : List Tree) (path : List Nat) (role : Option Role) : Tree → List Occurrence
  | .node f label start children =>
    let here := Tree.node f label start children
    ⟨here, ancestors, path, role⟩ ::
      (sortByLocation (walkChildren here ancestors path role 0 children)).flatMap (·.2)

/-- The traversals of the children, each with the place of the child; `index` is that of the
first one. -/
def walkChildren (parent : Tree) (ancestors : List Tree) (path : List Nat) (role : Option Role)
    (index : Nat) : List Tree → List (Location × List Occurrence)
  | [] => []
  | c :: cs =>
    (c.location, walk (parent :: ancestors) (index :: path)
      (role <|> annotationRole parent.label c.field ancestors) c) ::
      walkChildren parent ancestors path role (index + 1) cs

end

end Grader.Source
