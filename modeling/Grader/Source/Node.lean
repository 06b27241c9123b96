import Grader.Source.Walk

/-!
Classified nodes. A small vocabulary of kinds (classes, fields, methods, imports, calls, loops and
so on) is what rules and checks select from a tree. A node has at most one kind, which depends on
its label, its ancestors and the annotation it lies in.
-/

namespace Grader.Source

inductive Kind where
  | classDef | field | constructor | method | callable | importing | call | lambda | loop
  | localVariable | typeRef
  deriving Repr, DecidableEq

namespace Kind

/-- All kinds, in the order in which they are listed. -/
def all : List Kind :=
  [classDef, field, constructor, method, callable, importing, call, lambda, loop, localVariable,
    typeRef]

/-- The word for a kind. -/
def text : Kind → String
  | classDef => "class"
  | field => "field"
  | constructor => "constructor"
  | method => "method"
  | callable => "callable"
  | importing => "import"
  | call => "call"
  | lambda => "lambda"
  | loop => "loop"
  | localVariable => "variable"
  | typeRef => "type_ref"

/-- The kind that a word denotes. -/
def ofText? (s : String) : Option Kind := all.find? (·.text == s)

/-- Whether a node of kind `found` is selected by `wanted`: callables are methods and
constructors. -/
def covers (wanted found : Kind) : Bool :=
  match wanted with
  | callable => found == method || found == constructor
  | k => found == k

end Kind

/-- Names of methods that construct instances. -/
def constructorNames : List String := ["__init__", "__new__"]

/-- The kind of a node with the given ancestors and annotation, and its role. -/
def classify (t : Tree) (ancestors : List Tree) (role : Option Role) :
    Option (Kind × Option Role) :=
  match t.label with
  | .classDef _ => some (.classDef, none)
  | .functionDef n | .asyncFunctionDef n =>
    match ancestors with
    | parent :: _ =>
      if constructorNames.contains n && parent.label.isClass then some (.constructor, none)
      else some (.method, none)
    | [] => some (.method, none)
  | .assign | .annAssign =>
    match scopeIn ancestors with
    | some scope =>
      match scope.label with
      | .module | .classDef _ => some (.field, none)
      | .functionDef _ | .asyncFunctionDef _ => some (.localVariable, none)
      | _ => none
    | none => none
  | .importStmt | .importFrom _ _ => some (.importing, none)
  | .call => some (.call, none)
  | .lambda => some (.lambda, none)
  | .name _ | .member _ =>
    match role with
    | none => none
    | some r =>
      match ancestors with
      | parent :: _ => if parent.label.isMember then none else some (.typeRef, some r)
      | [] => some (.typeRef, some r)
  | label => if label.loopName.isSome then some (.loop, none) else none

structure Node where
  kind : Kind
  tree : Tree
  /-- The ancestors, the parent first and the root last. -/
  ancestors : List Tree
  /-- The indices that lead to the node, the last step first. -/
  path : List Nat
  /-- What a type reference annotates. -/
  role : Option Role

/-- The classified node at an occurrence, if it has a kind. -/
def Occurrence.node? (o : Occurrence) : Option Node :=
  (classify o.tree o.ancestors o.role).map fun (kind, role) =>
    ⟨kind, o.tree, o.ancestors, o.path, role⟩

mutual

/-- The dotted name of a chain of attributes on a name, such as `a.b.c`. -/
def dottedName : Tree → Option String
  | .node _ (.name id) _ _ => some id
  | .node _ (.member attr) _ children =>
    match dottedValue children with
    | some base => if base = "" then none else some (base ++ "." ++ attr)
    | none => none
  | _ => none

/-- The dotted name of the child that is the value of an attribute. -/
def dottedValue : List Tree → Option String
  | [] => none
  | t :: ts => if t.field = .value then dottedName t else dottedValue ts

end

/-- The dotted name, empty for anything that has none. -/
def dottedOrEmpty (t : Tree) : String := (dottedName t).getD ""

/-- The name of what a call calls; a receiver that is not a name is written `?`. -/
def callName (t : Tree) : String :=
  match t.child? .func with
  | none => "?"
  | some callee =>
    match (dottedName callee).filter (· != ""), callee.label with
    | some name, _ => name
    | none, .member attr => "?." ++ attr
    | none, _ => "?"

/-- The expressions that a target binds: the elements of a tuple or list, or the target itself. -/
def targetElements (t : Tree) : List Tree :=
  match t.label with
  | .tuple | .list => t.childrenAt .elts
  | _ => [t]

/-- The dotted name that a target element binds; a star in front of it does not count. -/
def targetName? (t : Tree) : Option String :=
  let bound := match t.label with
    | .starred => (t.child? .value).getD t
    | _ => t
  (dottedName bound).filter (· != "")

def assignedNames (t : Tree) : List String :=
  match t.label with
  | .assign => ((t.childrenAt .targets).flatMap targetElements).filterMap targetName?
  | .annAssign => ((t.childrenAt .target).flatMap targetElements).filterMap targetName?
  | _ => []

/-- The names of the aliases of an import statement. -/
def aliasNames (t : Tree) : List String :=
  (t.childrenAt .names).filterMap fun c =>
    match c.label with
    | .importAlias name => some name
    | _ => none

/-- The dotted names that an import statement refers to. -/
def importedModules (t : Tree) : List String :=
  match t.label with
  | .importStmt => aliasNames t
  | .importFrom 0 module => (aliasNames t).map fun name => module ++ "." ++ name
  | .importFrom level module => [String.ofList (List.replicate level '.') ++ module]
  | _ => []

namespace Node

/-- Line and column, both from 1. -/
def place (n : Node) : Nat × Nat :=
  match n.tree.start with
  | some l => (if l.line = 0 then 1 else l.line, l.column + 1)
  | none => (1, 1)

def parent (n : Node) : Option Tree := n.ancestors.head?

/-- The nearest enclosing module, class, function or lambda. -/
def scope (n : Node) : Option Tree := scopeIn n.ancestors

/-- The path of the nearest scope among ancestors that lie above a path. -/
def scopePathIn : List Tree → List Nat → Option (List Nat)
  | t :: ts, _ :: path => if t.label.isScope then some path else scopePathIn ts path
  | _, _ => none

/-- The path of the nearest enclosing scope. -/
def scopePath (n : Node) : Option (List Nat) := scopePathIn n.ancestors n.path

/-- The names that an assignment binds. -/
def targets (n : Node) : List String := assignedNames n.tree

/-- The dotted names that an import refers to. -/
def modules (n : Node) : List String := importedModules n.tree

/-- Whether the node is an import relative to its package. -/
def isRelative (n : Node) : Bool :=
  match n.tree.label with
  | .importFrom level _ => level != 0
  | _ => false

/-- The name of the node, as rules report it. -/
def name (n : Node) : String :=
  match n.tree.label.definedName, n.kind, n.tree.label with
  | some defined, _, _ => defined
  | none, .field, _ | none, .localVariable, _ => String.intercalate ", " n.targets
  | none, .importing, _ => String.intercalate ", " n.modules
  | none, _, .call => callName n.tree
  | none, .typeRef, _ => dottedOrEmpty n.tree
  | none, _, .lambda => "lambda"
  | none, _, label => label.loopName.getD label.className

/-- The construct in words, such as `for loop`. -/
def label (n : Node) : String :=
  n.tree.label.loopName.getD
    (String.ofList (n.kind.text.toList.map fun c => if c = '_' then ' ' else c))

/-- The nearest ancestor that one of the kinds covers, among ancestors above a path. -/
def enclosingIn (kinds : List Kind) : List Tree → List Nat → Option Node
  | t :: ts, _ :: path =>
    match classify t ts none with
    | some (kind, role) =>
      if kinds.any (·.covers kind) then some ⟨kind, t, ts, path, role⟩
      else enclosingIn kinds ts path
    | none => enclosingIn kinds ts path
  | _, _ => none

/-- The nearest ancestor that one of the kinds covers. -/
def enclosing (n : Node) (kinds : List Kind) : Option Node := enclosingIn kinds n.ancestors n.path

/-- The classified nodes below this one in document order, of one kind or of any. -/
def children (n : Node) (kind : Option Kind) : List Node :=
  let role := if n.kind = .typeRef then n.role else none
  ((walk n.ancestors n.path role n.tree).drop 1).filterMap fun o =>
    o.node?.filter fun m => kind.all (·.covers m.kind)

end Node

/-- Every classified node of a tree in document order. -/
def nodes (t : Tree) : List Node := (walk [] [] none t).filterMap Occurrence.node?

/-- The nodes of a tree that a kind covers, found by a traversal of their own. -/
def selected (kind : Kind) (t : Tree) : List Node :=
  (walk [] [] none t).filterMap fun o => o.node?.filter fun n => kind.covers n.kind

end Grader.Source
