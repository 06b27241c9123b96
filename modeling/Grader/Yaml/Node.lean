import Grader.Yaml.Scan

/-!
The nodes of a document: scalars, sequences and mappings with their tags, aliases replaced by what
they stand for. `Node.ofTokens` reads the single document of a sequence of tokens.
-/

namespace Grader.Yaml

/-- A node. A scalar that is not tagged says whether it is plain. -/
inductive Node where
  | scalar (tag : Option String) (text : List Char) (plain : Bool)
  | sequence (tag : Option String) (items : List Node)
  | mapping (tag : Option String) (entries : List (Node × Node))
  deriving Inhabited

namespace Node

/-- The scalar that stands where nothing is written. -/
def empty : Node := scalar none [] true

/-- What reading nodes carries along: the tokens ahead, the anchors that are set, without a node as
long as it is being read, and the handles of tags. -/
structure Reading where
  tokens : List Token
  anchors : List (String × Option Node) := []
  handles : List (String × String) := [("!", "!"), ("!!", "tag:yaml.org,2002:")]

namespace Reading

/-- The token ahead. -/
def peek (r : Reading) : Option Token := r.tokens.head?

/-- The reading behind the token ahead. -/
def drop (r : Reading) : Reading := { r with tokens := r.tokens.drop 1 }

/-- Whether one of some tokens is ahead. -/
def sees (r : Reading) (ts : List Token) : Bool :=
  match r.peek with
  | some t => ts.contains t
  | none => false

def anchored (r : Reading) (name : Option String) (n : Option Node) : Reading :=
  match name with
  | some a => { r with anchors := (a, n) :: r.anchors.filter (·.1 != a) }
  | none => r

/-- The full form of a tag; its handle must be declared. -/
def resolve (r : Reading) (t : WrittenTag) : Option String :=
  match t.handle with
  | none => some t.suffix
  | some h => (r.handles.find? (·.1 == h)).map fun e => e.2 ++ t.suffix

/-- An anchor and a tag in front of a node, in either order. -/
def properties (r : Reading) : Option String × Option WrittenTag × Reading :=
  match r.tokens with
  | .anchor a :: .tag t :: rest | .tag t :: .anchor a :: rest =>
    (some a, some t, { r with tokens := rest })
  | .anchor a :: rest => (some a, none, { r with tokens := rest })
  | .tag t :: rest => (none, some t, { r with tokens := rest })
  | _ => (none, none, r)

end Reading

/-- The tag that a node keeps; a single mark stands for none. -/
def keptTag : Option String → Option String
  | some "!" => none
  | t => t

mutual

/-- A node. In a block, block collections may start here, and where `indentless` is set, items of a
sequence at the column of their key. -/
def read (fuel : Nat) (inBlock indentless : Bool) (r : Reading) : Option (Node × Reading) :=
  match fuel with
  | 0 => none
  | fuel + 1 =>
    match r.peek with
    | some (.aliasTo a) =>
      match r.anchors.find? (·.1 == a) with
      | some (_, n) => some (n.getD empty, r.drop)
      | none => none
    | _ => do
      let (anchor, written, r) := r.properties
      if anchor.any fun a => r.anchors.any (·.1 == a) then none
      let tag ← match written with
        | none => some none
        | some t => (r.resolve t).map some
      let (n, r) ← content fuel inBlock indentless tag (anchor.isSome || written.isSome)
        (r.anchored anchor none)
      return (n, r.anchored anchor (some n))

/-- What a node consists of, behind its properties. -/
def content (fuel : Nat) (inBlock indentless : Bool) (tag : Option String) (hasProperties : Bool)
    (r : Reading) : Option (Node × Reading) :=
  match fuel with
  | 0 => none
  | fuel + 1 =>
    match r.peek with
    | some .blockEntry =>
      if indentless then
        (indentlessItems fuel r).map fun (ns, r) => (sequence (keptTag tag) ns, r)
      else if hasProperties then some (scalar (keptTag tag) [] true, r)
      else none
    | some (.scalar text plain) =>
      some (scalar (keptTag tag) text (plain || tag == some "!"), r.drop)
    | some .flowSequenceStart =>
      (flowItems fuel true r.drop).map fun (ns, r) => (sequence (keptTag tag) ns, r)
    | some .flowMappingStart =>
      (flowEntries fuel true r.drop).map fun (es, r) => (mapping (keptTag tag) es, r)
    | t =>
      if inBlock && t == some .blockSequenceStart then
        (blockItems fuel r.drop).map fun (ns, r) => (sequence (keptTag tag) ns, r)
      else if inBlock && t == some .blockMappingStart then
        (blockEntries fuel r.drop).map fun (es, r) => (mapping (keptTag tag) es, r)
      else if hasProperties then some (scalar (keptTag tag) [] true, r)
      else none

/-- A node, or nothing where one of some tokens is ahead. -/
def optional (fuel : Nat) (inBlock indentless : Bool) (stops : List Token) (r : Reading) :
    Option (Node × Reading) :=
  match fuel with
  | 0 => none
  | fuel + 1 => if r.sees stops then some (empty, r) else read fuel inBlock indentless r

/-- The items of a block sequence, with its end. -/
def blockItems (fuel : Nat) (r : Reading) : Option (List Node × Reading) :=
  match fuel with
  | 0 => none
  | fuel + 1 =>
    if r.sees [.blockEntry] then do
      let (n, r) ← optional fuel true false [.blockEntry, .blockEnd] r.drop
      let (ns, r) ← blockItems fuel r
      return (n :: ns, r)
    else if r.sees [.blockEnd] then some ([], r.drop)
    else none

/-- The items of a sequence at the column of its key. -/
def indentlessItems (fuel : Nat) (r : Reading) : Option (List Node × Reading) :=
  match fuel with
  | 0 => none
  | fuel + 1 =>
    if r.sees [.blockEntry] then do
      let (n, r) ← optional fuel true false [.blockEntry, .key, .value, .blockEnd] r.drop
      let (ns, r) ← indentlessItems fuel r
      return (n :: ns, r)
    else some ([], r)

/-- The entries of a block mapping, with its end. -/
def blockEntries (fuel : Nat) (r : Reading) : Option (List (Node × Node) × Reading) :=
  match fuel with
  | 0 => none
  | fuel + 1 =>
    if r.sees [.key, .value] then do
      let (k, r) ←
        if r.sees [.key] then optional fuel true true [.key, .value, .blockEnd] r.drop
        else none
      let (v, r) ←
        if r.sees [.value] then optional fuel true true [.key, .value, .blockEnd] r.drop
        else some (empty, r)
      let (es, r) ← blockEntries fuel r
      return ((k, v) :: es, r)
    else if r.sees [.blockEnd] then some ([], r.drop)
    else none

/-- The items of a sequence in brackets, with its end; `first` says that none has been read. -/
def flowItems (fuel : Nat) (first : Bool) (r : Reading) : Option (List Node × Reading) :=
  match fuel with
  | 0 => none
  | fuel + 1 =>
    if r.sees [.flowSequenceEnd] then some ([], r.drop)
    else do
      let r ← if first then some r else if r.sees [.flowEntry] then some r.drop else none
      if r.sees [.flowSequenceEnd] then return ([], r.drop)
      let (n, r) ←
        if r.sees [.key] then do
          let (k, r) ← optional fuel false false [.value, .flowEntry, .flowSequenceEnd] r.drop
          let (v, r) ←
            if r.sees [.value] then
              optional fuel false false [.flowEntry, .flowSequenceEnd] r.drop
            else some (empty, r)
          some (mapping none [(k, v)], r)
        else read fuel false false r
      let (ns, r) ← flowItems fuel false r
      return (n :: ns, r)

/-- The entries of a mapping in braces, with its end; `first` says that none has been read. -/
def flowEntries (fuel : Nat) (first : Bool) (r : Reading) :
    Option (List (Node × Node) × Reading) :=
  match fuel with
  | 0 => none
  | fuel + 1 =>
    if r.sees [.flowMappingEnd] then some ([], r.drop)
    else do
      let r ← if first then some r else if r.sees [.flowEntry] then some r.drop else none
      if r.sees [.flowMappingEnd] then return ([], r.drop)
      let (k, v, r) ←
        if r.sees [.key] then do
          let (k, r) ← optional fuel false false [.value, .flowEntry, .flowMappingEnd] r.drop
          let (v, r) ←
            if r.sees [.value] then
              optional fuel false false [.flowEntry, .flowMappingEnd] r.drop
            else some (empty, r)
          some (k, v, r)
        else do
          let (k, r) ← read fuel false false r
          some (k, empty, r)
      let (es, r) ← flowEntries fuel false r
      return ((k, v) :: es, r)

end

/-- Skips the markers of a document's end. -/
def skipEnds : List Token → List Token
  | .documentEnd :: rest => skipEnds rest
  | ts => ts

/-- The directives in front of a document: at most one version, whose major number is 1, and tag
handles, each once. -/
def directives (version : Bool) (handles : List (String × String)) :
    List Token → Option (List (String × String) × List Token)
  | .version major :: rest =>
    if version || major != 1 then none else directives true handles rest
  | .handle name uri :: rest =>
    if handles.any (·.1 == name) then none
    else directives version ((name, uri) :: handles) rest
  | .otherDirective :: rest => directives version handles rest
  | ts => some (handles, ts)

/-- The handles that are declared and those that always are. -/
def withDefaults (handles : List (String × String)) : List (String × String) :=
  handles ++ ({ tokens := [] } : Reading).handles

/-- Whether a token is a directive or a marker of a document. -/
def isOutside : Token → Bool
  | .version _ | .handle _ _ | .otherDirective | .documentStart | .documentEnd => true
  | _ => false

/-- The node of a document behind its start, and the tokens behind it. -/
def document (explicit : Bool) (handles : List (String × String)) (ts : List Token) :
    Option (Node × List Token) :=
  if explicit && (ts.head?.all isOutside) then some (empty, ts)
  else
    (read (8 * ts.length + 8) true false { tokens := ts, handles := withDefaults handles }).map
      fun (n, r) => (n, r.tokens)

/-- The node of the single document of a text, nothing for an empty text; `none` when there is more
than one document or the tokens do not form one. -/
def ofTokens (ts : List Token) : Option (Option Node) := do
  let startsOutside := match ts with
    | .documentEnd :: _ => false
    | t :: _ => isOutside t
    | [] => true
  let (n, rest) ←
    if startsOutside then do
      let ts := skipEnds ts
      if ts.isEmpty then some (none, [])
      else do
        let (handles, ts) ← directives false [] ts
        match ts with
        | .documentStart :: ts => (document true handles ts).map fun (n, ts) => (some n, ts)
        | _ => none
    else (document false [] ts).map fun (n, ts) => (some n, ts)
  if (skipEnds rest).isEmpty then some n else none

end Node

end Grader.Yaml
