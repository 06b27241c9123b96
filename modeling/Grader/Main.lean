import Grader.Command.Run

/-!
The program: the command that the arguments spell is run on the files of the working directory,
what it prints is printed, and the files that it changed are written.
-/

namespace Grader.Program

/-- How deep directories are read. -/
def maxDepth : Nat := 64

/-- The bytes of a file as a list, none for a file that cannot be read. -/
def bytesOf (e : IO.FS.DirEntry) : IO (List UInt8) := do
  try return (← IO.FS.readBinFile e.path).toList
  catch _ => return []

/-- An entry of a directory and the entries below it, given the components of the directory. -/
def entriesOf : Nat → List String → IO.FS.DirEntry → IO (List (List String × Entry))
  | 0, _, _ => return []
  | depth + 1, outer, e => do
    let here := outer ++ [e.fileName]
    if ← e.path.isDir then
      let inner ← (← e.path.readDir).toList.mapM (entriesOf depth here)
      return (here, .directory) :: inner.flatten
    else return [(here, .file (← bytesOf e))]

def workingFiles : IO Files := do
  let directory ← IO.currentDir
  let entries ← (← directory.readDir).toList.mapM (entriesOf maxDepth [])
  return { base := directory.toString, entries := entries.flatten }

def writeEntry (base : String) (components : List String) (e : Entry) : IO Unit :=
  let path := String.intercalate "/" (base :: components)
  match e with
  | .directory => IO.FS.createDirAll path
  | .file bytes => IO.FS.writeBinFile path ⟨bytes.toArray⟩

def writeChanges (before after : Files) : IO Unit :=
  after.entries.forM fun (components, e) =>
    if before.entryAt components = some e then return ()
    else writeEntry after.base components e

/-- A seed that nobody chose. -/
def entropy : IO Int := do
  return (← IO.getRandomBytes 8).toList.foldl (fun n b => n * 256 + b.toNat) 0

/-- What is said about an ending. -/
def lastWords : Ending → String
  | .exit _ => ""
  | .usage e => s!"Error: {e.message}\n"
  | .failed f =>
    match f.described with
    | .ok description => description ++ "\n"
    | .error _ => f.kind ++ ": <exception str() failed>\n"

end Grader.Program

open Grader Program in
/-- Runs the command that the arguments spell. -/
def main (args : List String) : IO UInt32 := do
  let files ← workingFiles
  let o := Command.runArguments { files } (← entropy) args
  IO.print o.output
  IO.eprint (o.complaint ++ lastWords o.ending)
  writeChanges files o.files
  return o.ending.code.toUInt32
