import Grader.Failure
import Grader.Files.Path

/-!
The files that a run sees: a tree below a working directory, with the errors that opening,
writing and making directories report. Home directories are left out: a `~` at the start of a path
is a character like any other, and no path with one is expanded before it is made absolute.
-/

namespace Grader

/-- Why the file system refuses an operation. -/
inductive FileError where
  | notFound | exists | notDirectory | isDirectory
  deriving Repr, DecidableEq

namespace FileError

def number : FileError → Nat
  | notFound => 2
  | «exists» => 17
  | notDirectory => 20
  | isDirectory => 21

/-- The class of the failure. -/
def kind : FileError → String
  | notFound => "FileNotFoundError"
  | «exists» => "FileExistsError"
  | notDirectory => "NotADirectoryError"
  | isDirectory => "IsADirectoryError"

/-- The description of the error. -/
def reason : FileError → String
  | notFound => "No such file or directory"
  | «exists» => "File exists"
  | notDirectory => "Not a directory"
  | isDirectory => "Is a directory"

/-- The failure, for an operation on a path. -/
def failure (e : FileError) (path : String) : Failure :=
  ⟨e.kind, s!"[Errno {e.number}] {e.reason}: {Text.Quoted.text path}", []⟩

end FileError

/-- What a path leads to. -/
inductive Entry where
  | file (bytes : List UInt8)
  | directory
  deriving DecidableEq

/-- A tree of files below a working directory. -/
structure Files where
  /-- The absolute path of the working directory. -/
  base : String
  /-- The entries by their components below the working directory, which itself is not listed. -/
  entries : List (List String × Entry)

namespace Files

/-- The entry at components below the working directory. -/
def entryAt (fs : Files) (at' : List String) : Option Entry :=
  if at' = [] then some .directory else (fs.entries.find? (·.1 == at')).map (·.2)

/-- The components of a path that steps through the tree, taken one by one from a directory. The
directory is given by its components, the innermost first. -/
def locateFrom (fs : Files) (here : List String) : List String → Except FileError (List String)
  | [] => .ok here.reverse
  | c :: rest =>
    match fs.entryAt here.reverse with
    | none => .error .notFound
    | some (.file _) => .error .notDirectory
    | some .directory =>
      if c = "" || c = "." then fs.locateFrom here rest
      else if c = ".." then
        match here with
        | [] => .error .notFound
        | _ :: outer => fs.locateFrom outer rest
      else fs.locateFrom (c :: here) rest

/-- The components of a path below the working directory, when it is absolute. -/
def below (fs : Files) (path : String) : Option (List String) :=
  let base := Path.components fs.base
  let cs := Path.components path
  if cs.take base.length == base then some (cs.drop base.length) else none

/-- The components that a path leads to, whether or not something is there; every step but the
last must be a directory. A slash at the end asks for a directory. -/
def locate (fs : Files) (path : String) : Except FileError (List String) :=
  if path = "" then .error .notFound
  else if path.toList.head? = some '/' then
    match fs.below path with
    | some cs => fs.locateFrom [] cs
    | none => .error .notFound
  else
    let pieces := (Path.splitSlashes path.toList).map String.ofList
    match fs.locateFrom [] pieces with
    | .error e => .error e
    | .ok found =>
      if path.toList.getLast? = some '/' then
        match fs.entryAt found with
        | some (.file _) => .error .notDirectory
        | _ => .ok found
      else .ok found

/-- What a path leads to. -/
def lookup (fs : Files) (path : String) : Except FileError Entry :=
  match fs.locate path with
  | .error e => .error e
  | .ok found =>
    match fs.entryAt found with
    | some e => .ok e
    | none => .error .notFound

def hasPath (fs : Files) (path : String) : Bool := (fs.lookup path).isOk

def isFile (fs : Files) (path : String) : Bool :=
  match fs.lookup path with
  | .ok (.file _) => true
  | _ => false

def isDirectory (fs : Files) (path : String) : Bool :=
  match fs.lookup path with
  | .ok .directory => true
  | _ => false

/-- The bytes of a file. -/
def read (fs : Files) (path : String) : Except FileError (List UInt8) :=
  match fs.lookup path with
  | .ok (.file bytes) => .ok bytes
  | .ok .directory => .error .isDirectory
  | .error e => .error e

/-- Replaces or adds an entry. -/
def put (fs : Files) (at' : List String) (e : Entry) : Files :=
  if fs.entries.any (·.1 == at') then
    { fs with entries := fs.entries.map fun p => if p.1 == at' then (at', e) else p }
  else { fs with entries := fs.entries ++ [(at', e)] }

/-- Writes a file whose directory is there. -/
def write (fs : Files) (path : String) (bytes : List UInt8) : Except FileError Files :=
  match fs.locate path with
  | .error e => .error e
  | .ok found =>
    match fs.entryAt found with
    | some .directory => .error .isDirectory
    | some (.file _) => .ok (fs.put found (.file bytes))
    | none =>
      match fs.entryAt found.dropLast with
      | some .directory => .ok (fs.put found (.file bytes))
      | some (.file _) => .error .notDirectory
      | none => .error .notFound

def makeDirectory (fs : Files) (path : String) : Except FileError Files :=
  match fs.locate path with
  | .error e => .error e
  | .ok found =>
    match fs.entryAt found with
    | some _ => .error .exists
    | none =>
      match fs.entryAt found.dropLast with
      | some .directory => .ok (fs.put found .directory)
      | some (.file _) => .error .notDirectory
      | none => .error .notFound

/-- The directory that holds a path, for a path in normal form. -/
def parentOf (path : String) : String :=
  let cs := Path.components path
  let root := Path.rootOf path
  let body := root ++ String.intercalate "/" cs.dropLast
  if body = "" then "." else body

/-- Makes a directory with the directories above it; one that is there already is fine. A refusal
names the path it is about. `fuel` bounds the number of directories above. -/
def makeDirectories : Nat → Files → String → Except (FileError × String) Files
  | 0, fs, _ => .ok fs
  | fuel + 1, fs, path =>
    match fs.makeDirectory path with
    | .ok fs => .ok fs
    | .error .notFound =>
      let parent := parentOf path
      if parent = path then .error (.notFound, path)
      else match makeDirectories fuel fs parent with
        | .error e => .error e
        | .ok fs =>
          match fs.makeDirectory path with
          | .ok fs => .ok fs
          | .error e => if fs.isDirectory path then .ok fs else .error (e, path)
    | .error e => if fs.isDirectory path then .ok fs else .error (e, path)

/-- Writes a text to a file, making the directories above it. -/
def publish (fs : Files) (path : String) (bytes : List UInt8) : Except Failure Files :=
  let path := Path.normal path
  let parent := parentOf path
  if path.contains '\x00' then .error (.value "embedded null byte")
  else
    match makeDirectories (parent.length + 2) fs parent with
    | .error (e, p) => .error (e.failure p)
    | .ok fs => (fs.write path bytes).mapError fun e => e.failure path

/-- Resolves dots and double dots textually from the working directory. A `~` stays as it is. -/
def absolute (fs : Files) (path : String) : String :=
  let start := if Path.rootOf path = "" then Path.components fs.base else []
  let cs := (Path.components path).foldl
    (fun acc c => if c = ".." then acc.dropLast else acc ++ [c]) start
  "/" ++ String.intercalate "/" cs

end Files

end Grader
