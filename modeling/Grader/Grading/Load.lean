import Grader.Grading.Module
import Grader.Grading.Reference

/-!
Loading the checks that a reference names. A target that is a file, or ends like one, is executed
by its path; any other target is the name of a module. A module that fails while it is executed is
told apart from references that lead nowhere: the run goes on with a single check that fails. What
describing such a failure raises is no failure of the module, and refuses the reference.
-/

namespace Grader

/-- Why checks could not be loaded. -/
inductive LoadError where
  /-- The module failed while it was executed, and the failure was described. -/
  | module (reference : String) (cause : Failure) (description : String)
  /-- The reference does not lead to checks. -/
  | refused (f : Failure)

namespace LoadError

/-- The error of a module that raised a failure. Failures that end the whole process are not the
module's own. -/
def ofCause (reference : String) (f : Failure) : LoadError :=
  match f.contained with
  | .ok description => module reference f description
  | .error g => refused g

/-- The failure of checks that could not be loaded. -/
def failure : LoadError → Failure
  | module reference _ description =>
    ⟨"CheckLoadError", s!"Could not load checks from {reference}: {description}", []⟩
  | refused f => f

/-- The name of the check that stands for checks that could not be loaded. -/
def checkName : String := "load_checks"

/-- The check that fails as the module did. -/
def failedCheck (reference : String) (cause : Failure) : Check Script :=
  ⟨checkName, "Load checks from " ++ reference, .fail cause⟩

end LoadError

namespace Importer

/-- Executes what a reference leads to. -/
def run (reference : String) (exports : Except Failure (List (String × Export))) :
    Except LoadError (List (String × Export)) :=
  exports.mapError (LoadError.ofCause reference)

/-- Executes the file of a path, which is not expanded to a home directory. -/
def loadFile (i : Importer) (reference target : String) :
    Except LoadError (List (String × Export)) :=
  let path := i.files.absolute (Path.normal target)
  if !i.files.isFile path then
    .error (.refused ⟨"FileNotFoundError", s!"Check module {path} does not exist", []⟩)
  else if !path.endsWith ".py" then
    .error (.refused (.value s!"Cannot load check module from {path}"))
  else run reference (i.moduleAt path).execute

/-- Executes the module of a name. -/
def loadNamed (i : Importer) (reference target : String) :
    Except LoadError (List (String × Export)) :=
  match i.locate target with
  | .error f => .error (.refused f)
  | .ok m => run reference (i.execute m)

def loadModule (i : Importer) (reference target : String) :
    Except LoadError (List (String × Export)) :=
  if target.endsWith ".py" || i.files.isFile (Path.normal target) then
    i.loadFile reference target
  else i.loadNamed reference target

/-- The registry that an attribute of a module holds. -/
def registryOf (r : Reference) : Option Export → Except Failure (Registry Script)
  | none | some (.value .none) =>
    .error (.value (r.target ++ " does not define " ++ Text.Quoted.text r.exported))
  | some (.registry registry) => .ok registry
  | some (.list checks) | some (.tuple checks) => Registry.ofChecks checks
  | some (.value v) =>
    match v with
    | .list [] | .tuple [] => .ok {}
    | v => .error (.value s!"{r.text} is not a CheckRegistry (got {v.typeName})")

/-- The checks that a reference names. -/
def load (i : Importer) (reference : String) : Except LoadError (Registry Script) := do
  let r := Reference.ofText reference
  let exports ← i.loadModule reference r.target
  (registryOf r (exports.lookup r.exported)).mapError .refused

/-- The checks that a reference names, or the single check that stands for a module that failed. -/
def loadOrFail (i : Importer) (reference : String) : Except Failure (List (Check Script)) :=
  match i.load reference with
  | .ok r => .ok r.checks
  | .error (.module reference cause _) => .ok [LoadError.failedCheck reference cause]
  | .error (.refused f) => .error f

end Importer

end Grader
