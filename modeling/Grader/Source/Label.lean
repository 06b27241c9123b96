/-!
The vocabulary of Python syntax trees: what a node is, and which field of its parent holds it.
Labels carry only the atoms that some rule or some error text depends on.
-/

namespace Grader.Source

/-- The field of the parent that holds a node. -/
inductive Field where
  | root | body | orElse | finalBody | handlers | decorators | returns | typeHint
  | args | posOnlyArgs | varArg | kwOnlyArgs | kwDefaults | kwArg | defaults
  | bases | keywords | func | value | values | target | targets | iter | test | message
  | left | right | comparators | operand | elts | keys | elt | key | generators | ifs
  | slice | lower | upper | step | items | contextExpr | optionalVars
  | subject | cases | pattern | patterns | guard | cls | kwdPatterns
  | exc | cause | handled | names | formatSpec | op | ops | ctx
  deriving Repr, DecidableEq

/-- The kinds of constants that are told apart. -/
inductive Constant where
  | none | truth (value : Bool) | ellipsis | number (imaginary : Bool) | text | bytes
  deriving Repr, DecidableEq

/-- Comparison operators, of which only membership is told apart from the others. -/
inductive Comparison where
  | isIn | other
  deriving Repr, DecidableEq

/-- What a node is. -/
inductive Label where
  | module
  | functionDef (name : String) | asyncFunctionDef (name : String) | classDef (name : String)
  | returnStmt | delete | assign | augAssign | annAssign
  | forLoop | asyncForLoop | whileLoop | ifStmt | withStmt | asyncWithStmt
  | matchStmt | raise | tryStmt | tryStarStmt | assertStmt
  | importStmt | importFrom (level : Nat) (module : String)
  | globalStmt | nonlocalStmt | exprStmt | pass | breakStmt | continueStmt
  | boolOp | namedExpr | binOp | unaryOp | lambda | ifExp | dict | set
  | listComp | setComp | dictComp | generatorExp
  | await | yieldExpr | yieldFrom | compare (first : Comparison) | call
  | formattedValue | joinedStr | constant (value : Constant)
  | member (attr : String) | subscript | starred | name (id : String) | list | tuple | slice
  | comprehension | exceptHandler | arguments | arg (name : String)
  | keyword (name : Option String) | importAlias (name : String) | withItem | matchCase
  | matchValue | matchSingleton | matchSequence | matchMapping | matchClass | matchStar
  | matchAs | matchOr
  /-- An operator or an expression context, by its name. -/
  | symbol (name : String)
  deriving Repr, DecidableEq

namespace Label

/-- The name of the node's class in Python's abstract grammar. -/
def className : Label → String
  | module => "Module"
  | functionDef _ => "FunctionDef" | asyncFunctionDef _ => "AsyncFunctionDef"
  | classDef _ => "ClassDef" | returnStmt => "Return" | delete => "Delete"
  | assign => "Assign" | augAssign => "AugAssign" | annAssign => "AnnAssign"
  | forLoop => "For" | asyncForLoop => "AsyncFor" | whileLoop => "While" | ifStmt => "If"
  | withStmt => "With" | asyncWithStmt => "AsyncWith" | matchStmt => "Match" | raise => "Raise"
  | tryStmt => "Try" | tryStarStmt => "TryStar" | assertStmt => "Assert"
  | importStmt => "Import" | importFrom _ _ => "ImportFrom"
  | globalStmt => "Global" | nonlocalStmt => "Nonlocal" | exprStmt => "Expr" | pass => "Pass"
  | breakStmt => "Break" | continueStmt => "Continue"
  | boolOp => "BoolOp" | namedExpr => "NamedExpr" | binOp => "BinOp" | unaryOp => "UnaryOp"
  | lambda => "Lambda" | ifExp => "IfExp" | dict => "Dict" | set => "Set"
  | listComp => "ListComp" | setComp => "SetComp" | dictComp => "DictComp"
  | generatorExp => "GeneratorExp" | await => "Await" | yieldExpr => "Yield"
  | yieldFrom => "YieldFrom" | compare _ => "Compare" | call => "Call"
  | formattedValue => "FormattedValue" | joinedStr => "JoinedStr" | constant _ => "Constant"
  | member _ => "Attribute" | subscript => "Subscript" | starred => "Starred"
  | name _ => "Name" | list => "List" | tuple => "Tuple" | slice => "Slice"
  | comprehension => "comprehension" | exceptHandler => "ExceptHandler"
  | arguments => "arguments" | arg _ => "arg" | keyword _ => "keyword" | importAlias _ => "alias"
  | withItem => "withitem" | matchCase => "match_case" | matchValue => "MatchValue"
  | matchSingleton => "MatchSingleton" | matchSequence => "MatchSequence"
  | matchMapping => "MatchMapping" | matchClass => "MatchClass" | matchStar => "MatchStar"
  | matchAs => "MatchAs" | matchOr => "MatchOr" | symbol n => n

/-- The name that a definition of a class or function gives. -/
def definedName : Label → Option String
  | functionDef n | asyncFunctionDef n | classDef n => some n
  | _ => none

/-- Plain and asynchronous function definitions. -/
def isFunction : Label → Bool
  | functionDef _ | asyncFunctionDef _ => true
  | _ => false

def isClass : Label → Bool
  | classDef _ => true
  | _ => false

/-- Nodes that open a scope: the module, classes, functions and lambdas. -/
def isScope : Label → Bool
  | module | classDef _ | functionDef _ | asyncFunctionDef _ | lambda => true
  | _ => false

/-- Nodes of dotted access, a step of a name such as `a.b`. -/
def isMember : Label → Bool
  | member _ => true
  | _ => false

/-- How a loop is called in messages; `none` for what is not a loop. -/
def loopName : Label → Option String
  | forLoop => some "for loop"
  | asyncForLoop => some "async for loop"
  | whileLoop => some "while loop"
  | listComp => some "list comprehension"
  | setComp => some "set comprehension"
  | dictComp => some "dict comprehension"
  | generatorExp => some "generator expression"
  | _ => none

end Label

end Grader.Source
