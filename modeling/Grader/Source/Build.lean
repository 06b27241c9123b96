import Grader.Source.Peg
import Grader.Source.Production

/-!
How the alternatives of the grammar build their values: trees from the items they matched, and
complaints about programs that are wrong in a known way.
-/

namespace Grader.Source

open Peg

mutual

/-- The trees in an item, in order. -/
def Peg.Item.trees : Item → List Tree
  | .tree t _ => [t]
  | .many xs => treesIn xs
  | _ => []

/-- The trees in several items, in order. -/
def Peg.treesIn : List Item → List Tree
  | [] => []
  | x :: xs => x.trees ++ treesIn xs

end

namespace Peg.Item

/-- The items of a repetition; an absent item is an empty one. -/
def items : Item → List Item
  | none => []
  | many xs => xs
  | x => [x]

/-- The identifier that an item holds. -/
def name : Item → String
  | text s => s
  | token t => t.text
  | tree t _ =>
    match t.label with
    | .name id => id
    | _ => ""
  | _ => ""

/-- Where the text of the item starts. -/
def location : Item → Location
  | token t => t.location
  | tree t _ => t.location
  | many (tree t _ :: _) => t.location
  | _ => ⟨1, 0⟩

/-- Where the text of the item ends. -/
def stop : Item → Location
  | token t => ⟨t.endLine, t.endColumn⟩
  | tree _ l => l
  | _ => ⟨1, 0⟩

def line (x : Item) : Nat := x.location.line

end Peg.Item

namespace Build

/-- The item with an index, absent when there is none. -/
def nth (xs : List Item) (i : Nat) : Item := xs.getD i .none

/-- The value is one of the items. -/
def pick (i : Nat) : Build := fun _ xs => .yield (nth xs i)

/-- The value is the sequence of all items. -/
def gather : Build := fun _ xs => .yield (.many xs)

/-- The value is a fixed text with one of the items. -/
def tagged (text : String) (i : Nat) : Build := fun _ xs => .yield (.many [.text text, nth xs i])

/-- Where the matched text ends. -/
def stopOf (s : Site) : Location := ⟨s.last.endLine, s.last.endColumn⟩

/-- The trees of the chosen items, each in its field. -/
def fieldsOf (fields : List (Nat × Field)) (xs : List Item) : List Tree :=
  fields.flatMap fun (i, f) => (nth xs i).trees.map (Tree.inField f)

/-- A tree with a place, from a label and children that depend on the items. -/
def treeWith (label : List Item → Label) (children : List Item → List Tree) : Build :=
  fun s xs =>
    .yield (.tree (.node .root (label xs) (some s.first.location) (children xs)) (stopOf s))

/-- A tree without a place of its own. -/
def bareWith (label : List Item → Label) (children : List Item → List Tree) : Build :=
  fun s xs => .yield (.tree (.node .root (label xs) none (children xs)) (stopOf s))

/-- A tree with a place whose children are the chosen items. -/
def node (label : Label) (fields : List (Nat × Field)) : Build :=
  treeWith (fun _ => label) (fieldsOf fields)

/-- A tree without a place of its own whose children are the chosen items. -/
def bare (label : Label) (fields : List (Nat × Field)) : Build :=
  bareWith (fun _ => label) (fieldsOf fields)

/-- A dotted step on the first item; the name is the item with index `i`. -/
def member (i : Nat) : Build :=
  treeWith (fun xs => .member (nth xs i).name) (fieldsOf [(0, .value)])

def constant (c : Constant) : Build := node (.constant c) []

/-- The first two items joined by a dot, as text. -/
def joinNames : Build := fun _ xs => .yield (.text ((nth xs 0).name ++ "." ++ (nth xs 2).name))

def nameText : Build := fun _ xs => .yield (.text (nth xs 0).name)

/-- An imported name, the first item. -/
def importAlias : Build := treeWith (fun xs => .importAlias (nth xs 0).name) (fun _ => [])

/-- The number of dots in front of a relative import. -/
def dots (x : Item) : Nat := x.items.foldr (fun d n => d.name.length + n) 0

/-- An import from a module: the dots, the module, if any, and the imported names. -/
def importFrom (level module names : Nat) : Build :=
  treeWith (fun xs => .importFrom (dots (nth xs level)) (nth xs module).name)
    (fieldsOf [(names, .names)])

/-- A definition with the decorators of the first item; they stand behind the body. -/
def decorated : Build := fun _ xs =>
  match nth xs 1 with
  | .tree (.node f l s children) stop =>
    let (tail, front) := children.partition (·.field == .returns)
    let marks := (nth xs 0).trees.map (Tree.inField .decorators)
    .yield (.tree (.node f l s (front ++ marks ++ tail)) stop)
  | x => .yield x

def noParameters : Tree := .node .root .arguments none []

/-- The tree of a parameter list that may be absent. -/
def parametersOf (x : Item) : Tree := x.trees.head?.getD noParameters

/-- A function definition; the arguments are the indices of its parts. -/
def function (label : String → Label) (name params body returns : Nat) : Build :=
  treeWith (fun xs => label (nth xs name).name) fun xs =>
    [(parametersOf (nth xs params)).inField .args] ++
      fieldsOf [(body, .body), (returns, .returns)] xs

def lambda : Build := treeWith (fun _ => .lambda) fun xs =>
  [(parametersOf (nth xs 1)).inField .args] ++ fieldsOf [(3, .body)] xs

/-- The positional arguments of a call, as children in a field. -/
def positional (f : Field) (x : Item) : List Tree :=
  (x.trees.flatMap (Tree.childrenAt · .args)).map (Tree.inField f)

def keywords (x : Item) : List Tree := x.trees.flatMap (Tree.childrenAt · .keywords)

/-- A class definition with its bases and keywords. -/
def classDef : Build := treeWith (fun xs => .classDef (nth xs 1).name) fun xs =>
  positional .bases (nth xs 2) ++ keywords (nth xs 2) ++ fieldsOf [(4, .body)] xs

def call : Build := treeWith (fun _ => .call) fun xs =>
  fieldsOf [(0, .func)] xs ++ positional .args (nth xs 2) ++ keywords (nth xs 2)

def isKeyword (t : Tree) : Bool :=
  match t.label with
  | .keyword _ => true
  | _ => false

/-- The arguments of a call, as a call of nothing: starred arguments among the keywords count as
positional. -/
def arguments (plain named : Nat) : Build := treeWith (fun _ => .call) fun xs =>
  let (keys, starred) := (nth xs named).trees.partition isKeyword
  fieldsOf [(plain, .args)] xs ++ starred.map (Tree.inField .args) ++
    keys.map (Tree.inField .keywords)

def keyword : Build :=
  treeWith (fun xs => .keyword (some (nth xs 0).name)) (fieldsOf [(2, .value)])

/-- A comparison; each further operand comes with the text of its operator. -/
def compare : Build := treeWith
  (fun xs => .compare (match (nth xs 1).items with
    | .many (.text "in" :: _) :: _ => .isIn
    | _ => .other))
  (fieldsOf [(0, .left), (1, .comparators)])

/-- The keys and values of pairs; a pair without a key unpacks a mapping. -/
def pairFields (keyField valueField : Field) (pairs : List Item) : List Tree :=
  let part (i : Nat) (f : Field) :=
    pairs.flatMap fun p => (nth p.items i).trees.map (Tree.inField f)
  part 0 keyField ++ part 1 valueField

/-- A dictionary display from its pairs. -/
def dict : Build := treeWith (fun _ => .dict) fun xs =>
  pairFields .keys .values (nth xs 1).items

/-- A dictionary comprehension from its pair and clauses. -/
def dictComp : Build := treeWith (fun _ => .dictComp) fun xs =>
  pairFields .key .value [nth xs 1] ++ fieldsOf [(2, .generators)] xs

/-- A key and a value. -/
def pairOf (key value : Nat) : Build := fun _ xs => .yield (.many [nth xs key, nth xs value])

/-- A value that unpacks a mapping into a dictionary. -/
def unpacked : Build := fun _ xs => .yield (.many [.none, nth xs 1])

/-- The trees of parameters, each with its default behind it, if it has one. -/
def split (params : List Item) : List Tree × List Tree :=
  (params.flatMap fun p => p.trees.take 1, params.flatMap fun p => p.trees.drop 1)

/-- A parameter list: positional-only parameters, plain ones, and those from the first star on. -/
def parameters (posOnly plain : List Item → List Item) (star : List Item → Item) : Build :=
  bareWith (fun _ => .arguments) fun xs =>
    let (first, firstDefaults) := split (posOnly xs)
    let (second, secondDefaults) := split (plain xs)
    first.map (Tree.inField .posOnlyArgs) ++ second.map (Tree.inField .args) ++
      (star xs).trees.flatMap Tree.children ++
      (firstDefaults ++ secondDefaults).map (Tree.inField .defaults)

/-- Parameters from the first star on: the starred one, keyword-only ones, and the double starred
one, by their indices. -/
def starParameters (star : Option Nat) (named double : Nat) : Build :=
  bareWith (fun _ => .arguments) fun xs =>
    let (plain, defaults) := split (nth xs named).items
    (star.elim [] fun i => fieldsOf [(i, .varArg)] xs) ++ plain.map (Tree.inField .kwOnlyArgs) ++
      defaults.map (Tree.inField .kwDefaults) ++ fieldsOf [(double, .kwArg)] xs

def param : Build :=
  treeWith (fun xs => .arg (nth xs 0).name) (fieldsOf [(1, .typeHint)])

/-- A mapping pattern: its pairs are the item with the given index. -/
def mapping (pairs : Nat) : Build := treeWith (fun _ => .matchMapping) fun xs =>
  pairFields .keys .patterns (nth xs pairs).items

def complaint (l : Location) (message : String) : Outcome :=
  .complain ⟨message, l.line, l.column + 1, false⟩

def complainAt (i : Nat) (message : String) : Build := fun _ xs =>
  complaint (nth xs i).location message

/-- A complaint at the last token that was looked at. -/
def complainHere (message : String) : Build := fun s _ =>
  .complain ⟨message, s.furthest.line, s.furthest.column.elim s.furthest.scan.bytes (· + 1), false⟩

/-- A complaint that a block is missing behind a header, which one of the items starts. -/
def missingBlock (header : String) (i : Nat) : Build := fun s xs =>
  complainHere s!"expected an indented block after {header} on line {(nth xs i).line}" s xs

/-- How an expression is called in complaints. -/
def describe (t : Tree) : String :=
  match t.label with
  | .member _ => "attribute"
  | .subscript => "subscript"
  | .starred => "starred"
  | .name _ => "name"
  | .list => "list"
  | .tuple => "tuple"
  | .lambda => "lambda"
  | .call => "function call"
  | .boolOp | .binOp | .unaryOp => "expression"
  | .generatorExp => "generator expression"
  | .yieldExpr | .yieldFrom => "yield expression"
  | .await => "await expression"
  | .listComp => "list comprehension"
  | .setComp => "set comprehension"
  | .dictComp => "dict comprehension"
  | .dict => "dict literal"
  | .set => "set display"
  | .joinedStr | .formattedValue => "f-string expression"
  | .constant .none => "None"
  | .constant (.truth false) => "False"
  | .constant (.truth true) => "True"
  | .constant .ellipsis => "ellipsis"
  | .constant _ => "literal"
  | .compare _ => "comparison"
  | .ifExp => "conditional expression"
  | .namedExpr => "named expression"
  | label => label.className

def described (x : Item) : String := (x.trees.head?.map describe).getD ""

inductive TargetUse where
  | assigned | deleted | iterated
  deriving DecidableEq

mutual

/-- The first part of an expression that cannot be a target. -/
def invalidTarget (use : TargetUse) : Tree → Option Tree
  | .node f label s children =>
    match label with
    | .list | .tuple => invalidTargetIn use children
    | .starred => if use = .deleted then some (.node f label s children)
      else invalidTargetIn use children
    | .compare first =>
      if use = .iterated then
        if first = .isIn then invalidLeft use children else none
      else some (.node f label s children)
    | .name _ | .subscript | .member _ => none
    | _ => some (.node f label s children)

/-- The first part of some expressions that cannot be a target. -/
def invalidTargetIn (use : TargetUse) : List Tree → Option Tree
  | [] => none
  | t :: ts => (invalidTarget use t).or (invalidTargetIn use ts)

/-- The first part of the left operand of a comparison that cannot be a target. -/
def invalidLeft (use : TargetUse) : List Tree → Option Tree
  | [] => none
  | t :: ts => if t.field = .left then invalidTarget use t else invalidLeft use ts

end

/-- Complains of the part of an item that cannot be a target, if there is one. -/
def complainTarget (use : TargetUse) (i : Nat) : Build := fun _ xs =>
  match (nth xs i).trees.head?.bind (invalidTarget use) with
  | some t =>
    let verb := if use = .deleted then "delete" else "assign to"
    complaint t.location s!"cannot {verb} {describe t}"
  | none => .decline

/-- Whether the item is the name of a statement that became a function. -/
def isLegacy (x : Item) : Bool := x.name == "print" || x.name == "exec"

/-- Complains of the old form of a statement that became a function. -/
def complainLegacy : Build := fun _ xs =>
  let x := nth xs 0
  if isLegacy x then
    complaint x.location
      s!"Missing parentheses in call to '{x.name}'. Did you mean {x.name}(...)?"
  else .decline

/-- Complains of two expressions side by side inside brackets. -/
def complainSideBySide : Build := fun s xs =>
  if isLegacy (nth xs 1) || s.last.level = 0 then .decline
  else complaint (nth xs 1).location "invalid syntax. Perhaps you forgot a comma?"

/-- Complains of a generator expression beside other arguments. -/
def complainGenerator : Build := fun _ xs =>
  let plain := positional .args (nth xs 0)
  match plain.getLast? with
  | some last =>
    if plain.length ≤ 1 then .decline
    else complaint last.location "Generator expression must be parenthesized"
  | none => .decline

/-- Complains of a positional argument behind keyword arguments. -/
def complainPositional : Build := fun s xs =>
  let unpacks := (keywords (nth xs 0)).any fun t => t.label == .keyword none
  complainHere (if unpacks then "positional argument follows keyword argument unpacking"
    else "positional argument follows keyword argument") s xs

/-- Complains of the last character of a key that no colon follows. -/
def complainKey : Build := fun _ xs =>
  let x := nth xs 0
  .complain ⟨"':' expected after dictionary key", x.line, x.stop.column, false⟩

/-- Accepts a number that is real, or imaginary, as asked. -/
def numberOf (imaginary : Bool) : Build := fun _ xs =>
  let x := nth xs 0
  match x.trees.head?.map Tree.label with
  | some (.constant (.number i)) =>
    if i = imaginary then .yield x
    else complaint x.location (if imaginary then "imaginary number required in complex literal"
      else "real number required in complex literal")
  | _ => .yield x

end Build

namespace Grammar

/-- Parsing expressions over the rules of the grammar. -/
abbrev E := Peg.Expr Production

instance : Coe String E := ⟨.word⟩
instance : Coe StatementRule E := ⟨fun r => .rule (.statement r)⟩
instance : Coe ExpressionRule E := ⟨fun r => .rule (.expression r)⟩
instance : Coe PatternRule E := ⟨fun r => .rule (.pattern r)⟩
instance : Coe FaultRule E := ⟨fun r => .rule (.fault r)⟩

/-- An alternative. -/
def alt (items : List E) (build : Build) : Peg.Alternative Production := .mk false items build

/-- An alternative that consists of one item and has its value. -/
def just (e : E) : Peg.Alternative Production := alt [e] (Build.pick 0)

/-- An alternative that is tried only to explain a failure. -/
def diagnose (r : FaultRule) : Peg.Alternative Production := .mk true [↑r] (Build.pick 0)

/-- A rule whose results are not remembered. -/
def once (alts : List (Peg.Alternative Production)) : Peg.Body Production := ⟨.none, alts⟩

/-- A rule whose results are remembered. -/
def memo (alts : List (Peg.Alternative Production)) : Peg.Body Production := ⟨.plain, alts⟩

def leftRec (alts : List (Peg.Alternative Production)) : Peg.Body Production :=
  ⟨.leftRecursive, alts⟩

/-- A sequence with the value of one of its items. -/
def seq (items : List E) (i : Nat) : E := .group [alt items (Build.pick i)]

/-- One of several expressions. -/
def oneOf (es : List E) : E := .group (es.map just)

def name : E := .kind .name

/-- The end of a logical line. -/
def newline : E := .kind .newline

/-- A line that is no deeper than the one before, where a block is due. -/
def noIndent : E := .absent (.kind .indent)

/-- The brackets of dictionaries and sets. -/
def opening : E := .word "\x7b"

/-- The closing bracket of dictionaries and sets. -/
def closing : E := .word "\x7d"

end Grammar

end Grader.Source
