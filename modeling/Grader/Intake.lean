import Grader.Policy.Document

/-!
Checks of the files that a run is pointed at, before it starts. A submission only has to be
readable; a policy file has to hold a mapping or nothing at all. Errors reject a file, warnings do
not. A strict check turns a rejection into a failure, and so does `Verdict.required`.
-/

namespace Grader

/-- What a path shows to one who wants to read a file there. A file may refuse to be opened, or to
be read to its end; then the reason is given. -/
inductive Sight where
  | nothing
  /-- Something that is no regular file. -/
  | irregular
  /-- A file: the first byte that is in it once it is opened, and all of its bytes. -/
  | file (first : Except String (Option UInt8)) (whole : Except String (List UInt8))

/-- What a path shows in a tree of files, where every file can be read. -/
def Files.sight (fs : Files) (path : String) : Sight :=
  match fs.lookup path with
  | .ok (.file bytes) => .file (.ok bytes.head?) (.ok bytes)
  | .ok .directory => .irregular
  | .error _ => .nothing

namespace Intake

inductive Rejection where
  | missing (path : String)
  | notRegular (path : String)
  | unopenable (path reason : String)
  | unreadable (path reason : String)
  /-- The message ends before the text of the YAML error, which is left out. -/
  | malformed (path : String)
  | notMapping (path type : String)
  deriving Repr, DecidableEq

def Rejection.message : Rejection → String
  | missing p => "File does not exist: " ++ p
  | notRegular p => "Not a regular file: " ++ p
  | unopenable p reason => "Cannot open " ++ p ++ ": " ++ reason
  | unreadable p reason => "Cannot read " ++ p ++ ": " ++ reason
  | malformed p => "Invalid YAML in " ++ p
  | notMapping p type => "Expected mapping at root of " ++ p ++ ", received " ++ type

/-- What is odd about a file that is not rejected. -/
inductive Warning where
  | empty (path : String)
  | suffix (path : String)
  | noSettings (path : String)
  deriving Repr, DecidableEq

def Warning.message : Warning → String
  | empty p => "File is empty: " ++ p
  | suffix p => "Submission is not a .py file: " ++ p
  | noSettings p => "No settings in " ++ p ++ ", defaults apply"

/-- What a check of a file finds in it. -/
inductive Content where
  | path (path : String)
  | mapping (entries : List (Value × Value))

/-- The outcome of a check of a file. -/
structure Verdict where
  errors : List Rejection := []
  warnings : List Warning := []
  content : Option Content := none

/-- The failure that lists errors. -/
def rejected (errors : List String) : Failure :=
  let text := String.intercalate "; " errors
  ⟨"ValidationFailure", .text (if text = "" then "validation failed" else text), []⟩

namespace Verdict

/-- Whether the file is accepted. -/
def isValid (v : Verdict) : Bool := v.errors.isEmpty

/-- The refusal of a rejected file. -/
def demand (v : Verdict) : Except Failure Unit :=
  if v.isValid then .ok () else .error (rejected (v.errors.map Rejection.message))

/-- The verdict, if the file is accepted. -/
def required (v : Verdict) : Except Failure Verdict := v.demand.map fun _ => v

def rejecting (r : Rejection) : Verdict := { errors := [r] }

end Verdict

/-- A file that can be opened: what is odd about it, and what reading all of it gives. -/
def opened (path : String) : Sight → Except Rejection (List Warning × Except String (List UInt8))
  | .nothing => .error (.missing path)
  | .irregular => .error (.notRegular path)
  | .file (.error reason) _ => .error (.unopenable path reason)
  | .file (.ok first) whole => .ok (if first.isNone then [.empty path] else [], whole)

/-- What is found about a file that only has to be there. -/
def judgeFile (path : String) (s : Sight) : Verdict :=
  let candidate := Path.normal path
  match opened candidate s with
  | .error r => .rejecting r
  | .ok (warnings, _) => { warnings := warnings, content := some (.path candidate) }

/-- What is found about a submission: a file, the name of which should end in `.py`. -/
def judgeSubmission (path : String) (s : Sight) : Verdict :=
  let v := judgeFile path s
  if v.isValid && Path.suffix path != ".py" then
    { v with warnings := v.warnings ++ [.suffix path] }
  else v

def ofDocument (path : String) (warnings : List Warning) : Value → Verdict
  | .none => { warnings := warnings ++ [.noSettings path], content := some (.mapping []) }
  | .dict es => { warnings := warnings, content := some (.mapping es) }
  | v => { errors := [.notMapping path v.typeName], warnings := warnings }

/-- The text of a file, or why there is none. -/
def textOf (whole : Except String (List UInt8)) : Except String (List Char) :=
  whole >>= fun bytes => (Text.Utf8.decode bytes).mapError Text.Utf8.Fault.message

/-- What is found about a policy file: its document is a mapping, or there is none. What a tag makes
of a text that does not have its form is a failure of its own kind, which the check does not
contain. -/
def judgePolicy (path : String) (s : Sight) : Except Failure Verdict :=
  match opened (Path.normal path) s with
  | .error r => .ok (.rejecting r)
  | .ok (warnings, whole) =>
    match textOf whole with
    | .error reason => .ok { errors := [.unreadable path reason], warnings := warnings }
    | .ok text =>
      match Yaml.load text with
      | .error f =>
        if f.isA "YAMLError" then .ok { errors := [.malformed path], warnings := warnings }
        else .error f
      | .ok v => .ok (ofDocument path warnings v)

/-- What a file is checked as. -/
inductive Purpose where
  | file | submission | policy
  deriving Repr, DecidableEq

def Purpose.judge : Purpose → String → Sight → Except Failure Verdict
  | file, path, s => .ok (judgeFile path s)
  | submission, path, s => .ok (judgeSubmission path s)
  | policy, path, s => judgePolicy path s

/-- Why there is no verdict on a file: the check itself failed, or it is strict and rejects the
file. -/
inductive Obstacle where
  | failed (f : Failure)
  | rejected (errors : List Rejection)

/-- The failure that a check without a verdict ends in. -/
def Obstacle.failure : Obstacle → Failure
  | failed f => f
  | rejected errors => Intake.rejected (errors.map Rejection.message)

/-- A verdict as a check gives it: a strict one accepts the file, or there is none. -/
def Verdict.report (strict : Bool) (v : Verdict) : Except Obstacle Verdict :=
  if strict && !v.isValid then .error (.rejected v.errors) else .ok v

/-- Checks what a path shows. Looking may fail by itself, where a path cannot be followed. -/
def check (strict : Bool) (purpose : Purpose) (look : String → Except Failure Sight)
    (path : String) : Except Obstacle Verdict := do
  let s ← (look (Path.normal path)).mapError .failed
  let v ← (purpose.judge path s).mapError .failed
  v.report strict

/-- Checks a file. -/
def file (fs : Files) (path : String) : Verdict := judgeFile path (fs.sight (Path.normal path))

/-- Checks a submission. -/
def submission (fs : Files) (path : String) : Verdict :=
  judgeSubmission path (fs.sight (Path.normal path))

/-- Checks a policy file. -/
def policyFile (fs : Files) (path : String) : Except Failure Verdict :=
  judgePolicy path (fs.sight (Path.normal path))

end Intake

end Grader
