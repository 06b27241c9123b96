import Grader.Decimal.Written
import Grader.Grading.Run
import Grader.Text.Lines
import Grader.Text.Utf8

/-!
Publishing a result: lines of a protocol on a console, and a record in a file. Every line of the
transcript becomes marked lines of the protocol, and the score is its last line. The record holds
the scaled score and one entry for every grade. `Publication.ofSinks` publishes a result to several
sinks, one after the other, up to the first that fails.
-/

namespace Grader

inductive PublishError where
  | console (reason : String)
  | file (path reason : String)
  deriving Repr, DecidableEq

/-- The failure of a result that could not be published. -/
def PublishError.failure : PublishError → Failure
  | console reason => ⟨"SinkError", "Cannot write transcript to console: " ++ reason, []⟩
  | file path reason => ⟨"SinkError", "Cannot write results to " ++ path ++ ": " ++ reason, []⟩

namespace Result

def commentMark : String := "Comment :=>>"

def gradeMark : String := "Grade :=>>"

/-- The lines of the protocol for a line of the transcript. -/
def protocolOf (l : Line) : List String :=
  let pieces := Text.lines l.render
  (if pieces.isEmpty then [""] else pieces).map fun t => commentMark ++ t ++ "\n"

def protocol (r : Result) : List String :=
  r.lines.flatMap protocolOf ++ [gradeMark ++ toString r.score ++ "\n"]

end Result

/-- A console: ready, closed, or one that takes a number of lines and then has no space left. -/
inductive Console where
  | ready
  | closed
  | full (after : Nat)
  deriving Repr, DecidableEq

/-- Writes the protocol to a console: what the console has then got, or why it could not be
written. -/
def Console.publish (c : Console) (r : Result) : Except PublishError String :=
  match c with
  | .ready => .ok (String.join r.protocol)
  | .closed => .error (.console "I/O operation on closed file")
  | .full after =>
    if r.protocol.length ≤ after then .ok (String.join r.protocol)
    else .error (.console "[Errno 28] No space left on device")

/-- The lines that a console takes before it fails. -/
def Console.taken (c : Console) (lines : List String) : List String :=
  match c with
  | .ready => lines
  | .closed => []
  | .full after => lines.take after

structure RecordEntry where
  name : String
  passed : Bool
  message : String
  deriving Repr, DecidableEq

structure Record where
  score : Float
  maximum : Float
  entries : List RecordEntry

namespace Record

def entryOf (g : Grade) : RecordEntry := ⟨g.check ++ ": " ++ g.description, g.passed, g.description⟩

/-- A number of points, divided by a scale. -/
def scaled (points : Int) (scale : Float) : Except Failure Float :=
  match Decimal.ofInt? points with
  | some x => .ok (x / scale)
  | none => .error ⟨"OverflowError", "int too large to convert to float", []⟩

/-- What is wrong with the numbers of a record. -/
def flaws (score maximum : Float) : List Flaw :=
  (if maximum > 0.0 then [] else [⟨["max_score"], "greater_than", none⟩]) ++
    if score ≥ 0.0 then [] else [⟨["score"], "greater_than_equal", none⟩]

def ofResult (r : Result) (scale : Float) : Except Failure Record := do
  let score ← scaled r.score scale
  let maximum ← scaled r.maximum scale
  let fs := flaws score maximum
  if fs.isEmpty then return ⟨score, maximum, r.grades.map entryOf⟩
  else throw (.validation fs)

/-- A character of a string of a record. -/
def escape (c : Char) : List Char :=
  if c = '"' then ['\\', '"'] else if c = '\\' then ['\\', '\\']
  else if c = '\x08' then ['\\', 'b'] else if c = '\t' then ['\\', 't']
  else if c = '\n' then ['\\', 'n'] else if c = '\x0c' then ['\\', 'f']
  else if c = '\r' then ['\\', 'r']
  else if c.toNat < 32 then '\\' :: 'u' :: Text.Quoted.hex 4 c.toNat
  else [c]

def stringText (s : String) : String := "\"" ++ String.ofList (s.toList.flatMap escape) ++ "\""

/-- A field of a record, after a margin. -/
def fieldText (margin name value : String) : String :=
  margin ++ stringText name ++ ": " ++ value

/-- Fields between braces, the second of which stands after a margin. -/
def objectText (margin : String) (fields : List String) : String :=
  "\x7b\n" ++ String.intercalate ",\n" fields ++ "\n" ++ margin ++ "\x7d"

def entryText (e : RecordEntry) : String :=
  "    " ++ objectText "    "
    [fieldText "      " "name" (stringText e.name),
      fieldText "      " "outcome" (stringText (if e.passed then "passed" else "failed")),
      fieldText "      " "message" (stringText e.message)]

def entriesText (es : List RecordEntry) : String :=
  if es.isEmpty then "[]"
  else "[\n" ++ String.intercalate ",\n" (es.map entryText) ++ "\n  ]"

def text (r : Record) : String :=
  objectText ""
    [fieldText "  " "score" (Decimal.record.write r.score),
      fieldText "  " "max_score" (Decimal.record.write r.maximum),
      fieldText "  " "tests" (entriesText r.entries)] ++ "\n"

end Record

/-- A file for the record of a result, and the scale of its numbers. -/
structure ResultFile where
  path : String
  scale : Float

namespace ResultFile

/-- A file with a scale, which must be positive unless it is no number at all. -/
def ofPath (path : String) (scale : Float) : Except Failure ResultFile :=
  if 0 < scale ∨ scale.isNaN then .ok ⟨Path.normal path, scale⟩
  else .error (.value ("scale must be positive: " ++ Decimal.plain.write scale))

/-- Writes the record of a result: the record, and the files after it. -/
def publish (f : ResultFile) (r : Result) (fs : Files) : Except Failure (Record × Files) := do
  let record ← Record.ofResult r f.scale
  match fs.publish f.path (Text.Utf8.encode record.text) with
  | .ok fs => return (record, fs)
  | .error e => throw (if e.isA "OSError" then (PublishError.file f.path e.text).failure else e)

end ResultFile

/-- Where a result is published. -/
inductive Sink where
  | console (c : Console)
  | file (f : ResultFile)

/-- What publishing does outside of the process. -/
inductive Effect where
  /-- A line on the console. -/
  | wrote (line : String)
  /-- The file at a path is written, with the directories above it. -/
  | saved (path : String)
  deriving Repr, DecidableEq

/-- The line that an effect adds to the console. -/
def Effect.line? : Effect → Option String
  | wrote line => some line
  | saved _ => none

/-- What has become of publishing a result: the effects, one after the other, the files behind them,
and why it was not completed. -/
structure Publication where
  effects : List Effect := []
  files : Files
  failure : Option Failure := none

namespace Publication

/-- What is written to the console. -/
def output (b : Publication) : String := String.join (b.effects.filterMap Effect.line?)

/-- Publishes a result to a sink. A record that cannot be made leaves its file alone. -/
def ofSink (r : Result) (fs : Files) : Sink → Publication
  | .console c =>
    { effects := (c.taken r.protocol).map .wrote
      files := fs
      failure := match c.publish r with
        | .ok _ => none
        | .error e => some e.failure }
  | .file f =>
    let effects := if (Record.ofResult r f.scale).isOk then [.saved f.path] else []
    match f.publish r fs with
    | .ok (_, fs) => { effects, files := fs }
    | .error e => { effects, files := fs, failure := some e }

/-- Publishes a result to sinks, up to the first that fails. -/
def ofSinks (r : Result) (fs : Files) : List Sink → Publication
  | [] => { files := fs }
  | s :: rest =>
    let b := ofSink r fs s
    match b.failure with
    | some _ => b
    | none =>
      let later := ofSinks r b.files rest
      { later with effects := b.effects ++ later.effects }

end Publication

end Grader
