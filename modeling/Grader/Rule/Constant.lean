import Grader.Source.Literal
import Grader.Text.Dotted

/-!
Which module and class level assignments bind constants: upper case names of immutable literals,
names with two underscores at both ends, final and bare declarations, declarations of types, and
the fields of record classes.
-/

namespace Grader.Source

/-- Calls that declare a type or a type parameter. -/
def declaringCalls : List String := ["TypeVar", "NewType", "ParamSpec", "TypeVarTuple"]

/-- Decorators that make a class a record. -/
def recordDecorators : List String := ["dataclass", "attrs", "define", "frozen"]

/-- Classes whose subclasses are records. -/
def recordBases : List String :=
  ["Enum", "IntEnum", "StrEnum", "Flag", "IntFlag", "NamedTuple", "TypedDict", "Protocol",
    "BaseModel"]

/-- The last component of the dotted name of an expression, empty when it has none. -/
def lastName (t : Tree) : String := Text.Dotted.lastSegment (dottedOrEmpty t)

/-- Whether a name has two underscores at both ends. -/
def isDunder (name : String) : Bool :=
  ['_', '_'].isPrefixOf name.toList && ['_', '_'].isPrefixOf name.toList.reverse

/-- Whether the characters are upper case letters, digits and underscores only. -/
def isUpperTail (cs : List Char) : Bool :=
  cs.all fun c => c.isUpper || c.isDigit || c == '_'

/-- Whether a name is an upper case letter followed by upper case letters, digits and underscores,
with or without an underscore in front. -/
def isConstantName (name : String) : Bool :=
  match name.toList with
  | '_' :: c :: rest => c.isUpper && isUpperTail rest
  | c :: rest => c.isUpper && isUpperTail rest
  | [] => false

/-- Whether an annotation says that the name is final. -/
def isFinal (hint : Tree) : Bool :=
  let bare := match hint.label with
    | .subscript => (hint.child? .value).getD hint
    | _ => hint
  lastName bare == "Final"

/-- Whether a class has a base whose name ends like that of an enumeration. -/
def isEnumeration (cls : Tree) : Bool :=
  (cls.childrenAt .bases).any fun b =>
    let ending := (lastName b).toList.reverse
    "munE".toList.isPrefixOf ending || "galF".toList.isPrefixOf ending

/-- Whether a decorator makes a class a record. -/
def isRecordDecorator (d : Tree) : Bool :=
  let target := match d.label with
    | .call => (d.child? .func).getD d
    | _ => d
  recordDecorators.contains (lastName target)

def isRecord (cls : Tree) : Bool :=
  (cls.childrenAt .decorators).any isRecordDecorator || isEnumeration cls ||
    (cls.childrenAt .bases).any fun b => recordBases.contains (lastName b)

/-- Whether the value of an assignment declares a type. -/
def declaresType (value : Tree) : Bool :=
  match value.label with
  | .call => declaringCalls.contains (((value.child? .func).map lastName).getD "")
  | _ => false

namespace Node

/-- The class that an assignment belongs to directly. -/
def scopeClass (n : Node) : Option Tree := n.scope.filter (·.label.isClass)

/-- Whether an annotated assignment is exempt: it has no value, is final, or is the field of a
record. -/
def isDeclaration (n : Node) : Bool :=
  match n.tree.label with
  | .annAssign =>
    (n.tree.child? .value).isNone || ((n.tree.child? .typeHint).any isFinal) ||
      n.scopeClass.any isRecord
  | _ => false

/-- Whether the names are those of constants and the value is an immutable literal. -/
def bindsLiteral (n : Node) : Bool :=
  n.targets.all (fun name => isConstantName (Text.Dotted.lastSegment name)) &&
    (n.tree.child? .value).any (isImmutableLiteral false)

/-- Whether a module or class level assignment binds a constant. -/
def isConstant (n : Node) : Bool :=
  n.targets.isEmpty || n.targets.all isDunder || n.isDeclaration ||
    n.scopeClass.any isEnumeration || (n.tree.child? .value).any declaresType || n.bindsLiteral

end Node

end Grader.Source
