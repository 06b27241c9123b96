import Grader.Grading.Registry
import Grader.Grading.Script
import Grader.Source.Encoding
import Grader.Text.Dotted

/-!
Check modules and how they are found. What executing the file of a module does is given with the
files; other files are taken for modules that define nothing, if they parse. Names are looked up
along a list of directories, and dotted names inside the packages that their first parts name.
-/

namespace Grader

/-- What a module defines under a name. -/
inductive Export where
  | registry (r : Registry Script)
  | list (checks : List (Check Script))
  | tuple (checks : List (Check Script))
  | value (v : Value)

inductive Module where
  | raises (f : Failure)
  | defines (exports : List (String × Export))

namespace Module

/-- What executing does for a file of which no more is known than its text. -/
def ofSource (name : String) (bytes : List UInt8) : Module :=
  match Source.Encoding.readSource Source.Encoding.known name bytes with
  | .error f => .raises f
  | .ok cs =>
    match Source.parseModule (fun _ => none) cs with
    | .ok _ => .defines []
    | .error f => .raises ⟨"SyntaxError", s!"{f.message} ({name}, line {f.line})", []⟩

def execute : Module → Except Failure (List (String × Export))
  | raises f => .error f
  | defines exports => .ok exports

end Module

/-- Where modules come from: the files, what executing them does, and the directories that are
searched, the first one first. -/
structure Importer where
  files : Files
  /-- Modules by the components of their files. -/
  modules : List (List String × Module) := []
  path : List String := []

/-- A module that was found: its file, if it has one, and for a package the directories that its
modules are in. -/
structure FoundModule where
  file : Option String
  places : Option (List String)
  deriving Repr, DecidableEq

namespace Importer

/-- Puts directories in front of those that are searched, one after the other. One that is searched
already stays where it is; none is expanded to a home directory. -/
def extend (i : Importer) (directories : List String) : Importer :=
  let path := directories.foldl
    (fun path d =>
      let d := i.files.absolute d
      if path.contains d then path else d :: path)
    i.path
  { i with path }

/-- What a directory has for a name: a package, a module, or a directory that may be part of a
package without a file. -/
def findIn (i : Importer) (directory name : String) : Option FoundModule :=
  let inner := directory ++ "/" ++ name
  let package := inner ++ "/__init__.py"
  let file := inner ++ ".py"
  if name.toList.contains '/' then none
  else if name != "" && i.files.isFile package then some ⟨some package, some [inner]⟩
  else if i.files.isFile file then some ⟨some file, none⟩
  else if name != "" && i.files.isDirectory inner then some ⟨none, some [inner]⟩
  else none

/-- The package whose parts were found in several directories; none when nothing was found. -/
def joined (parts : List String) : Option FoundModule :=
  if parts.isEmpty then none else some ⟨none, some parts⟩

/-- Finds a name along directories; `parts` are the parts of a package without a file so far. -/
def find (i : Importer) (name : String) (parts : List String) : List String → Option FoundModule
  | [] => joined parts
  | d :: rest =>
    match i.findIn d name with
    | none => i.find name parts rest
    | some ⟨none, places⟩ => i.find name (parts ++ places.getD []) rest
    | some m => some m

/-- What executing a file does. -/
def moduleAt (i : Importer) (file : String) : Module :=
  let known := (i.files.below file).bind fun components => i.modules.lookup components
  known.getD (.ofSource (Path.name file) ((i.files.read file).toOption.getD []))

/-- Executes a module that was found; a package without a file defines nothing. -/
def execute (i : Importer) (m : FoundModule) : Except Failure (List (String × Export)) :=
  match m.file with
  | none => .ok []
  | some file => (i.moduleAt file).execute

/-- The failure of a module that is not there. -/
def missing (text : String) : Failure := ⟨"ModuleNotFoundError", text, []⟩

def missingText (name : String) : String := "No module named " ++ Text.Quoted.text name

/-- A name of segments, the last of which comes first. -/
def nameOf (segments : List String) : String := String.intercalate "." segments.reverse

/-- Imports the module of a dotted name, the last segment of which comes first, and the packages
around it: the directories that its modules are in, if it is a package. -/
def importPackage (i : Importer) : List String → Except Failure (Option (List String))
  | [] => .ok (some i.path)
  | last :: outer =>
    match i.importPackage outer with
    | .error f => .error f
    | .ok none =>
      .error (missing (missingText (nameOf (last :: outer)) ++ "; " ++
        Text.Quoted.text (nameOf outer) ++ " is not a package"))
    | .ok (some places) =>
      match i.find last [] places with
      | none => .error (missing (missingText (nameOf (last :: outer))))
      | some m => (i.execute m).map fun _ => m.places

/-- Finds the module of a dotted name, importing the packages around it. -/
def locate (i : Importer) (name : String) : Except Failure FoundModule :=
  if name.startsWith "." then
    .error ⟨"ImportError", "no package specified for " ++ Text.Quoted.text name ++
      " (required for relative module names)", []⟩
  else
    match ((Text.Dotted.components name.toList).map String.ofList).reverse with
    | [] => .error (missing (missingText name))
    | last :: outer =>
      match i.importPackage outer with
      | .error f => .error f
      | .ok none =>
        .error (missing ("__path__ attribute not found on " ++ Text.Quoted.text (nameOf outer) ++
          " while trying to find " ++ Text.Quoted.text name))
      | .ok (some places) =>
        match i.find last [] places with
        | none => .error (missing (missingText name))
        | some m => .ok m

end Importer

end Grader
