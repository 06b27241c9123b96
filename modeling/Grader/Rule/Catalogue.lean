import Grader.Rule.Basic
import Grader.Rule.Constant

/-!
The ten rules. Each function says what one rule finds in a submission; `Rule.catalogue` lists the
rules in the order in which they are evaluated.
-/

namespace Grader.Rule

open Source

/-- The name of the function that a submission starts with. -/
def entryPoint : String := "main"

/-- What is found at a node. -/
def at' (u : SourceUnit) (n : Node) (message : String) : Finding := ⟨u.positionOf n, message⟩

/-- Imports of modules outside the allowed ones. -/
def importFindings (u : SourceUnit) (p : Policy) : List Finding :=
  let allowed := p.lists .allowedImports
  let listed := String.intercalate ", " allowed
  let shownAllowed := if listed = "" then "none" else listed
  (u.select .importing).filterMap fun n =>
    let rejected := n.modules.filter fun m => !Text.Dotted.isWithinAny m allowed
    let shownRejected := String.intercalate ", " rejected
    if n.isRelative || rejected.isEmpty then none
    else some (at' u n s!"Import of {shownRejected} is not allowed (allowed: {shownAllowed})")

/-- Loops, and then calls that iterate. -/
def loopFindings (u : SourceUnit) (p : Policy) : List Finding :=
  ((u.select .loop).map fun n =>
    at' u n (n.label ++ " is not allowed, use recursion instead")) ++
  (u.select .call).filterMap fun n =>
    let callee := Text.Dotted.lastSegment n.name
    if (p.lists .iterationCalls).contains callee then
      some (at' u n s!"internal iteration via {callee}() is not allowed, use recursion instead")
    else none

/-- Functions other than the entry point. -/
def methodFindings (u : SourceUnit) (_ : Policy) : List Finding :=
  (u.select .method).filterMap fun n =>
    if n.name = entryPoint then none
    else some (at' u n s!"No methods allowed except {entryPoint}(): {n.name}()")

def lambdaFindings (u : SourceUnit) (_ : Policy) : List Finding :=
  (u.select .lambda).map fun n => at' u n "lambda expression is not allowed"

/-- Whether a node is a member of the class at a path: a field, method or constructor in the scope
of the class itself. -/
def isMemberOf (cls member : Node) : Bool :=
  [Kind.field, .method, .constructor].contains member.kind && member.scopePath == some cls.path

/-- Classes outside the module's own scope, each followed by its members. -/
def innerClassFindings (u : SourceUnit) (_ : Policy) : List Finding :=
  (u.select .classDef).flatMap fun n =>
    match n.scope with
    | some scope =>
      if scope.label = .module then []
      else at' u n s!"Inner classes are not allowed: {n.name}" ::
        ((n.children none).filter (isMemberOf n)).map fun m =>
          at' u m s!"Inner classes are not allowed: {m.kind.text} {m.name} of {n.name}"
    | none => []

/-- What an annotation with a role declares, where abstract types are not allowed. -/
def siteText : Option Role → Option String
  | some .returned => some "return type"
  | some .parameter => some "parameter type"
  | some .localVariable => some "variable type"
  | _ => none

/-- Abstract collection types in annotations. -/
def collectionFindings (u : SourceUnit) (p : Policy) : List Finding :=
  (u.select .typeRef).filterMap fun n =>
    match siteText n.role with
    | none => none
    | some site =>
      if (p.lists .abstractCollections).contains (Text.Dotted.lastSegment n.name) then
        some (at' u n s!"Use a concrete collection instead of {n.name} as {site}")
      else none

def consoleFindings (u : SourceUnit) (p : Policy) : List Finding :=
  (u.select .call).filterMap fun n =>
    if (p.lists .consoleCalls).contains n.name then
      some (at' u n s!"Console output is not allowed: {n.name}()")
    else none

/-- Module and class level variables that are not constants. -/
def globalFindings (u : SourceUnit) (_ : Policy) : List Finding :=
  (u.select .field).filterMap fun n =>
    if n.isConstant then none
    else some (at' u n s!"Global variables are not allowed: {n.name} (only constants)")

/-- Imports of modules that help to cheat. -/
def cheatImportFindings (u : SourceUnit) (p : Policy) : List Finding :=
  (u.select .importing).filterMap fun n =>
    let forbidden := n.modules.filter fun m => Text.Dotted.isWithinAny m (p.lists .forbiddenImports)
    if n.isRelative || forbidden.isEmpty then none
    else some (at' u n ("[CHEAT] Forbidden import: " ++ String.intercalate ", " forbidden))

/-- Calls that end the process or run code of their own making. -/
def cheatCallFindings (u : SourceUnit) (p : Policy) : List Finding :=
  (u.select .call).filterMap fun n =>
    if (p.lists .forbiddenCalls).contains n.name then
      some (at' u n s!"[CHEAT] Forbidden call: {n.name}()")
    else none

def findings : RuleName → SourceUnit → Policy → List Finding
  | .imports => importFindings
  | .loops => loopFindings
  | .methods => methodFindings
  | .lambdas => lambdaFindings
  | .innerClasses => innerClassFindings
  | .collectionInterfaces => collectionFindings
  | .consoleOutput => consoleFindings
  | .globalVariables => globalFindings
  | .cheatImports => cheatImportFindings
  | .cheatCalls => cheatCallFindings

def isAboutCheating : RuleName → Bool
  | .cheatImports | .cheatCalls => true
  | _ => false

/-- How serious the violations of a rule are. -/
def severityOf (r : RuleName) : Severity := if isAboutCheating r then .cheat else .ordinary

/-- What a rule forbids, in a sentence. -/
def descriptionOf : RuleName → String
  | .imports => "Only imports from the allow-list may be used."
  | .loops => "Explicit loops and internal iteration calls are not allowed."
  | .methods => "No function definitions except the main() entry point."
  | .lambdas => "Lambda expressions are not allowed."
  | .innerClasses => "Classes must not be nested in classes or functions."
  | .collectionInterfaces =>
    "Declared types must be concrete collections, not abstract collection interfaces."
  | .consoleOutput => "Writing to the console is not allowed."
  | .globalVariables => "Module and class level variables must be constants."
  | .cheatImports => "Reflection and process control modules must not be imported."
  | .cheatCalls => "Process termination and dynamic code execution must not be called."

/-- The name under which a rule shows itself. -/
def titleOf : RuleName → String
  | .imports => "ImportAllowListRule"
  | .loops => "LoopRule"
  | .methods => "MethodRule"
  | .lambdas => "LambdaRule"
  | .innerClasses => "InnerClassRule"
  | .collectionInterfaces => "CollectionInterfaceRule"
  | .consoleOutput => "ConsoleOutputRule"
  | .globalVariables => "GlobalVariableRule"
  | .cheatImports => "ForbiddenImportRule"
  | .cheatCalls => "ForbiddenCallRule"

def ofName (r : RuleName) : Rule where
  name := r.text
  severity := severityOf r
  description := descriptionOf r
  title := titleOf r
  onlyRealistic := isAboutCheating r
  check u p := ⟨(findings r u p).map (Finding.violation r.text (severityOf r) u), none⟩

/-- The rules in the order in which they are evaluated. -/
def catalogue : List Rule := RuleName.all.map ofName

end Grader.Rule
