import Grader.Files.Basic
import Grader.Policy.Build
import Grader.Yaml.Load
import Grader.Yaml.Write

/-!
Policies in files. A policy file holds a mapping or nothing; the policy may also be one entry of
it, beside the settings of other programs. What is written reads back as the same policy.
-/

namespace Grader.Policy

/-- The number of bytes that are decoded at a time when a document is read. -/
def chunkSize : Nat := 8192

/-- Decodes bytes chunk by chunk. A sequence that a chunk leaves open is taken over into the next
one; positions of faults are counted from the start of what is decoded together. -/
def decodeChunks : Nat → List UInt8 → List UInt8 → Except Text.Utf8.Fault (List Char)
  | 0, _, _ => .ok []
  | fuel + 1, pending, bytes =>
    let chunk := pending ++ bytes.take chunkSize
    let rest := bytes.drop chunkSize
    if bytes.isEmpty then Text.Utf8.decode pending
    else match Text.Utf8.decode chunk with
      | .ok cs => (decodeChunks fuel [] rest).map (cs ++ ·)
      | .error f =>
        if f.first + f.count = chunk.length && f.reason == "unexpected end of data" then
          match Text.Utf8.decode (chunk.take f.first) with
          | .ok cs => (decodeChunks fuel (chunk.drop f.first) rest).map (cs ++ ·)
          | .error g => .error g
        else .error f

/-- The failure of bytes that are no text. -/
def undecodable (f : Text.Utf8.Fault) : Failure := ⟨"UnicodeDecodeError", f.message, []⟩

/-- The mapping of a document, empty for a document that counts as false. -/
def readMapping (fs : Files) (path : String) : Except Failure (List (Value × Value)) := do
  let bytes ← (fs.read path).mapError fun e => e.failure path
  let text ← (decodeChunks (bytes.length + 2) [] bytes).mapError undecodable
  let v ← Yaml.load text
  match v with
  | .dict es => return es
  | v =>
    if v.truthy then
      .error (.value s!"Expected mapping at root of {path}, received {v.typeText}")
    else return []

/-- The entries of the policy in a document: those of its own, or of its entry for the policy. -/
def policyEntries (es : List (Value × Value)) : List (Value × Value) :=
  match Value.lookup (.str "policy") es with
  | some (.dict inner) => inner
  | _ => es

def refusedDocument (path : String) (f : Failure) : Failure :=
  if f.kind == "ValidationError" then
    { Failure.value s!"Invalid policy in {path}" with details := f.details }
  else f

/-- Reads the policy of a file. The path is not expanded to a home directory. -/
def load (fs : Files) (path : String) : Except Failure Policy := do
  let path := fs.absolute path
  let es ← readMapping fs path
  (ofValue (.dict (policyEntries es))).mapError (refusedDocument path)

def document (p : Policy) : String := Yaml.write p.toValue

/-- Writes a policy to a file. -/
def dump (fs : Files) (p : Policy) (path : String) : Except Failure Files :=
  fs.publish path (Text.Utf8.encode p.document)

/-- Whether a policy that is written to a file reads back as the same policy. -/
def roundTrips (fs : Files) (p : Policy) (path : String) : Except Failure Bool := do
  let fs ← p.dump fs path
  let q ← load fs path
  return p.same q

end Grader.Policy
