import Grader.Yaml.Scalar
import Grader.Yaml.Token

/-!
The tokens of a document. Indentation opens and closes blocks; a key on one line is recognised by
the colon behind it, so its token is put in front of what has been read since.
-/

namespace Grader.Yaml

/-- A place where a key on one line may have started. -/
structure KeyStart where
  /-- The number of tokens in front of it. -/
  position : Nat
  /-- Whether it must be a key. -/
  required : Bool
  index : Nat
  line : Nat
  column : Nat
  deriving Repr

structure Scan where
  cursor : Cursor
  tokens : Array Token := #[]
  /-- The number of open brackets. -/
  flow : Int := 0
  /-- The column of the innermost block, -1 outside every block. -/
  indent : Int := -1
  /-- The columns of the blocks around it. -/
  outer : List Int := []
  /-- Whether a key on one line may start here. -/
  keyAllowed : Bool := true
  /-- The possible keys by the number of open brackets. -/
  keys : List (Int × KeyStart) := []
  deriving Repr

namespace Scan

/-- Whether the scan is between brackets. -/
def inFlow (s : Scan) : Bool := s.flow != 0

/-- Adds a token. -/
def push (s : Scan) (t : Token) : Scan := { s with tokens := s.tokens.push t }

/-- Moves on. -/
def at' (s : Scan) (c : Cursor) : Scan := { s with cursor := c }

/-- Allows or forbids a key here. -/
def allow (s : Scan) (b : Bool) : Scan := { s with keyAllowed := b }

/-- Skips blanks, comments and line ends. A line end outside brackets allows a key. -/
def skipFiller : Nat → Scan → Scan
  | 0, s => s
  | fuel + 1, s =>
    let c := s.cursor.skipBlanks.skipComment
    if isBreak c.peek then
      skipFiller fuel { s with
        cursor := c.lineBreak.2, keyAllowed := s.keyAllowed || !s.inFlow }
    else s.at' c

/-- Drops possible keys that are on an earlier line or too far back; one that is required must not
be dropped. -/
def dropStale (s : Scan) : Option Scan :=
  let stale (k : KeyStart) := k.line != s.cursor.line || 1024 < s.cursor.index - k.index
  if s.keys.any fun (_, k) => stale k && k.required then none
  else some { s with keys := s.keys.filter fun (_, k) => !stale k }

/-- Drops the possible key between the brackets at hand. -/
def dropKey (s : Scan) : Option Scan :=
  if s.keys.any fun (l, k) => l == s.flow && k.required then none
  else some { s with keys := s.keys.filter fun (l, _) => l != s.flow }

/-- Remembers that a key may start here. -/
def saveKey (s : Scan) : Option Scan :=
  if s.keyAllowed then
    s.dropKey.map fun s =>
      let c := s.cursor
      let required := !s.inFlow && s.indent == Int.ofNat c.column
      { s with keys := (s.flow, ⟨s.tokens.size, required, c.index, c.line, c.column⟩) :: s.keys }
  else some s

/-- Closes the blocks that are deeper than a column. -/
def unwindFrom (column indent : Int) (tokens : Array Token) :
    List Int → Array Token × Int × List Int
  | [] => (tokens, indent, [])
  | i :: outer =>
    if indent > column then unwindFrom column i (tokens.push .blockEnd) outer
    else (tokens, indent, i :: outer)

/-- Closes the blocks that are deeper than a column, outside brackets. -/
def unwind (s : Scan) (column : Int) : Scan :=
  if s.inFlow then s
  else
    let (tokens, indent, outer) := unwindFrom column s.indent s.tokens s.outer
    { s with tokens, indent, outer }

/-- Opens a block at a column that is deeper than the innermost one, putting a token at a
position. -/
def openBlock (s : Scan) (column : Nat) (position : Nat) (t : Token) : Scan :=
  if s.indent < Int.ofNat column then
    { s with
      outer := s.indent :: s.outer, indent := Int.ofNat column,
      tokens := s.tokens.insertIdxIfInBounds position t }
  else s

/-- A directive's or marker's preliminaries: all blocks end and no key is possible. -/
def atTopLevel (s : Scan) : Option Scan := ((s.unwind (-1)).dropKey).map (·.allow false)

def number (c : Cursor) : Option (Nat × Cursor) :=
  let (ds, c) := c.takeWhile Char.isDigit
  if ds.isEmpty then none
  else some (ds.foldl (fun n d => 10 * n + (d.toNat - 48)) 0, c)

/-- A handle of a tag: marks around a name, or one mark alone where that is what is written. -/
def tagHandle (c : Cursor) : Option (List Char × Cursor) :=
  if c.peek != '!' then none
  else if c.peekAt 1 == ' ' then some (['!'], c.forward)
  else
    let (name, d) := c.forward.takeWhile isNameChar
    if d.peek == '!' then some ('!' :: name ++ ['!'], d.forward)
    else none

def isTagChar (x : Char) : Bool := x.isAlphanum || "-;/?:@&=+$,_.!~*'()[]%".toList.contains x

/-- The text of a tag, with percent signs in front of coded bytes. -/
def tagText (c : Cursor) : Option (List Char × Cursor) :=
  let (cs, c) := c.takeWhile isTagChar
  if cs.isEmpty then none else some (cs, c)

/-- The contents of a directive behind its mark and name. -/
def directiveBody (name : String) (c : Cursor) : Option (Token × Cursor) := do
  if name == "YAML" then
    let (major, c) ← number c.skipBlanks
    if c.peek != '.' then none
    let (_, c) ← number c.forward
    if isGap c.peek then some (.version major, c) else none
  else if name == "TAG" then
    let (handle, c) ← tagHandle c.skipBlanks
    if c.peek != ' ' then none
    let (uri, c) ← tagText c.skipBlanks
    if isGap c.peek then some (.handle (String.ofList handle) (String.ofList uri), c) else none
  else some (.otherDirective, c.skipWhile fun x => !isBreakOrEnd x)

def directive (s : Scan) : Option Scan := do
  let s ← s.atTopLevel
  let (name, c) := s.cursor.forward.takeWhile isNameChar
  if name.isEmpty || !isGap c.peek then none
  let (t, c) ← directiveBody (String.ofList name) c
  let c ← ignoredLine c
  return (s.push t).at' c

/-- A marker of a document's start or end. -/
def marker (s : Scan) (t : Token) : Option Scan :=
  s.atTopLevel.map fun s => (s.push t).at' (s.cursor.skip 3)

def openFlow (s : Scan) (t : Token) : Option Scan :=
  s.saveKey.map fun s =>
    { s with
      flow := s.flow + 1, keyAllowed := true, tokens := s.tokens.push t,
      cursor := s.cursor.forward }

/-- A closing bracket. -/
def closeFlow (s : Scan) (t : Token) : Option Scan :=
  s.dropKey.map fun s =>
    { s with
      flow := s.flow - 1, keyAllowed := false, tokens := s.tokens.push t,
      cursor := s.cursor.forward }

/-- A comma between brackets. -/
def flowEntry (s : Scan) : Option Scan :=
  (s.allow true).dropKey.map fun s => (s.push .flowEntry).at' s.cursor.forward

/-- Opens a block at the place at hand, which must allow one. -/
def enterBlock (s : Scan) (t : Token) : Option Scan :=
  if s.inFlow then some s
  else if s.keyAllowed then some (s.openBlock s.cursor.column s.tokens.size t)
  else none

/-- A hyphen in front of an item. -/
def blockEntry (s : Scan) : Option Scan := do
  let s ← s.enterBlock .blockSequenceStart
  let s ← (s.allow true).dropKey
  return (s.push .blockEntry).at' s.cursor.forward

/-- A question mark in front of a key. -/
def explicitKey (s : Scan) : Option Scan := do
  let s ← s.enterBlock .blockMappingStart
  let s ← (s.allow (!s.inFlow)).dropKey
  return (s.push .key).at' s.cursor.forward

def mappingValue (s : Scan) : Option Scan := do
  let s ← match s.keys.find? (·.1 == s.flow) with
    | some (_, k) =>
      let s := { s with
        keys := s.keys.filter fun (l, _) => l != s.flow
        tokens := s.tokens.insertIdxIfInBounds k.position .key }
      let s := if s.inFlow then s else s.openBlock k.column k.position .blockMappingStart
      some (s.allow false)
    | none => do
      let s ← s.enterBlock .blockMappingStart
      (s.allow (!s.inFlow)).dropKey
  return (s.push .value).at' s.cursor.forward

/-- The name behind the mark of an anchor or alias. -/
def anchorName (c : Cursor) : Option (String × Cursor) :=
  let (name, c) := c.forward.takeWhile isNameChar
  if !name.isEmpty && (isWideGap c.peek || "?:,]\x7d%@`".toList.contains c.peek) then
    some (String.ofList name, c)
  else none

/-- An anchor or alias. -/
def named (s : Scan) (t : String → Token) : Option Scan := do
  let s ← s.saveKey
  let (name, c) ← anchorName s.cursor
  return ((s.allow false).push (t name)).at' c

/-- Whether a tag has a second mark before its end. -/
def hasHandle : List Char → Bool
  | [] => false
  | x :: rest => if isGap x then false else x == '!' || hasHandle rest

/-- The bytes that percent signs and digits stand for, read as text. -/
def decodeTag : List Char → Option (List Char)
  | [] => some []
  | '%' :: a :: b :: rest => do
    let v ← hexDigits? [a, b]
    let more ← decodeTag rest
    return Char.ofNat v :: more
  | '%' :: _ => none
  | x :: rest => (decodeTag rest).map (x :: ·)

def writtenTag (c : Cursor) : Option (WrittenTag × Cursor) := do
  let next := c.peekAt 1
  let (handle, suffix, c) ←
    if next == '<' then do
      let (suffix, c) ← tagText (c.skip 2)
      if c.peek == '>' then some (none, suffix, c.forward) else none
    else if isWideGap next then some (none, ['!'], c.forward)
    else if hasHandle (c.rest.drop 1) then do
      let (handle, c) ← tagHandle c
      let (suffix, c) ← tagText c
      some (some handle, suffix, c)
    else do
      let (suffix, c) ← tagText c.forward
      some (some ['!'], suffix, c)
  let suffix ← decodeTag suffix
  if isGap c.peek then some (⟨handle.map String.ofList, String.ofList suffix⟩, c) else none

def tag (s : Scan) : Option Scan := do
  let s ← s.saveKey
  let (t, c) ← writtenTag s.cursor
  return ((s.allow false).push (.tag t)).at' c

def block (s : Scan) (isFolded : Bool) : Option Scan := do
  let s ← (s.allow true).dropKey
  let (text, c) ← blockScalar isFolded s.indent s.cursor
  return (s.push (.scalar text false)).at' c

def quoted (s : Scan) : Option Scan := do
  let s ← s.saveKey
  let (text, c) ← quotedScalar s.cursor
  return ((s.allow false).push (.scalar text false)).at' c

def plain (s : Scan) : Option Scan := do
  let s ← s.saveKey
  let (text, ended, c) := plainScalar s.inFlow s.indent s.cursor
  return ((s.allow ended).push (.scalar text true)).at' c

/-- Characters that cannot start a plain scalar, wherever they stand. -/
def isIndicator (x : Char) : Bool := "-?:,[]\x7b\x7d#&*!|>'\"%@`".toList.contains x

/-- Whether a plain scalar starts here. -/
def startsPlain (s : Scan) : Bool :=
  let x := s.cursor.peek
  (!isWideGap x && !isIndicator x) ||
    (!isWideGap (s.cursor.peekAt 1) && (x == '-' || (!s.inFlow && (x == '?' || x == ':'))))

/-- The next token, or more than one where a block ends or starts. -/
def next (s : Scan) : Option Scan :=
  let c := s.cursor
  let x := c.peek
  let gapNext := isWideGap (c.peekAt 1)
  if x == '%' && c.column == 0 then s.directive
  else if c.column == 0 && c.atMarker then
    s.marker (if x == '-' then .documentStart else .documentEnd)
  else if x == '[' then s.openFlow .flowSequenceStart
  else if x == '{' then s.openFlow .flowMappingStart
  else if x == ']' then s.closeFlow .flowSequenceEnd
  else if x == '}' then s.closeFlow .flowMappingEnd
  else if x == ',' then s.flowEntry
  else if x == '-' && gapNext then s.blockEntry
  else if x == '?' && (s.inFlow || gapNext) then s.explicitKey
  else if x == ':' && (s.inFlow || gapNext) then s.mappingValue
  else if x == '*' then s.named .aliasTo
  else if x == '&' then s.named .anchor
  else if x == '!' then s.tag
  else if x == '|' && !s.inFlow then s.block false
  else if x == '>' && !s.inFlow then s.block true
  else if x == '\'' || x == '"' then s.quoted
  else if s.startsPlain then s.plain
  else none

/-- Scans to the end. -/
def run : Nat → Scan → Option Scan
  | 0, _ => none
  | fuel + 1, s =>
    let s := skipFiller (s.cursor.rest.length + 1) s
    match s.dropStale with
    | none => none
    | some s =>
      let s := s.unwind (Int.ofNat s.cursor.column)
      if s.cursor.rest.isEmpty then ((s.unwind (-1)).dropKey)
      else s.next.bind (run fuel)

end Scan

/-- Characters that a document may hold. -/
def isAllowed (x : Char) : Bool :=
  let n := x.toNat
  n == 9 || n == 10 || n == 13 || (0x20 ≤ n && n ≤ 0x7E) || n == 0x85 ||
    (0xA0 ≤ n && n ≤ 0xFFFD) || 0x10000 ≤ n

/-- The tokens of a document; `none` when it is malformed. -/
def tokens? (text : List Char) : Option (List Token) :=
  if text.all isAllowed then
    let body := match text with
      | '\uFEFF' :: rest => rest
      | cs => cs
    (Scan.run (2 * body.length + 2) { cursor := { rest := body } }).map (·.tokens.toList)
  else none

end Grader.Yaml
