import Grader.Source.Build
import Grader.Source.Lexer

/-!
The trees of string tokens. Adjacent tokens make one tree: a constant, or a formatted string whose
parts are constants and embedded expressions. Embedded expressions are parsed by a function that
is given, so that this module does not depend on the grammar.
-/

namespace Grader.Source.TextToken

open Peg

/-- A string token taken apart. -/
structure Parts where
  isBytes : Bool
  raw : Bool
  formatted : Bool
  /-- The characters between the quotes. -/
  body : List Char
  /-- The characters before the body. -/
  lead : List Char

/-- Takes a string token apart. -/
def parts (text : String) : Parts :=
  let cs := text.toList
  let letters := (cs.takeWhile fun c => c != '"' && c != '\'')
  let quoted := cs.drop letters.length
  let flags := letters.map Char.toLower
  let size := match quoted with
    | a :: b :: c :: _ => if a = b && b = c && 6 ≤ quoted.length then 3 else 1
    | _ => 1
  { isBytes := flags.contains 'b', raw := flags.contains 'r', formatted := flags.contains 'f',
    body := (quoted.drop size).take (quoted.length - 2 * size),
    lead := letters ++ quoted.take size }

/-- The leading hexadecimal digits, at most `n`. -/
def hexRun (n : Nat) (cs : List Char) : List Char :=
  (cs.take n).takeWhile fun c =>
    c.isDigit || ('a' ≤ c && c ≤ 'f') || ('A' ≤ c && c ≤ 'F')

/-- The bytes that a character takes while escapes are read: others than ASCII are escaped
first. -/
def escapedSize (c : Char) : Nat := if c.toNat < 128 then 1 else 10

/-- The complaint about an escape between two byte positions. -/
def escapeFault (first last : Nat) (reason : String) : String :=
  s!"(unicode error) 'unicodeescape' codec can't decode bytes in position {first}-{last}: {reason}"

/-- The digits and the complaint of a numeric escape. -/
def numericEscape : Char → Option (Nat × String)
  | 'x' => some (2, "truncated \\xXX escape")
  | 'u' => some (4, "truncated \\uXXXX escape")
  | 'U' => some (8, "truncated \\UXXXXXXXX escape")
  | _ => none

/-- Checks the escapes of a text; the answer says whether the text is non-empty. -/
def checkText : Nat → Nat → Bool → List Char → Except String Bool
  | 0, _, some?, _ => .ok some?
  | _, _, some?, [] => .ok some?
  | fuel + 1, pos, some?, '\\' :: c :: rest =>
    match numericEscape c with
    | some (n, reason) =>
      let ds := hexRun n rest
      if ds.length < n then .error (escapeFault pos (pos + 1 + ds.length) reason)
      else if n = 8 && 0x10FFFF < ds.foldl (fun v d => 16 * v + (hexValue d)) 0 then
        .error (escapeFault pos (pos + 9) "illegal Unicode character")
      else checkText fuel (pos + 2 + n) true (rest.drop n)
    | none =>
      if c = 'N' then
        match rest with
        | '{' :: named =>
          let run := named.takeWhile (· != '}')
          if run.length = named.length || run = [] then
            .error (escapeFault pos (pos + 2 + run.length) "malformed \\N character escape")
          else checkText fuel (pos + 4 + run.length) true (named.drop (run.length + 1))
        | _ => .error (escapeFault pos (pos + 1) "malformed \\N character escape")
      else checkText fuel (pos + 1 + escapedSize c) (some? || c != '\n') rest
  | fuel + 1, pos, _, c :: rest => checkText fuel (pos + escapedSize c) true rest
where
  /-- The value of a hexadecimal digit. -/
  hexValue (c : Char) : Nat :=
    if c.isDigit then c.toNat - 48 else if 'a' ≤ c then c.toNat - 87 else c.toNat - 55

/-- Checks the escapes of a sequence of bytes. -/
def checkBytes : Nat → Nat → List Char → Except String Unit
  | 0, _, _ => .ok ()
  | _, _, [] => .ok ()
  | fuel + 1, pos, '\\' :: 'x' :: rest =>
    if (hexRun 2 rest).length < 2 then .error s!"(value error) invalid \\x escape at position {pos}"
    else checkBytes fuel (pos + 4) (rest.drop 2)
  | fuel + 1, pos, '\\' :: _ :: rest => checkBytes fuel (pos + 2) rest
  | fuel + 1, pos, _ :: rest => checkBytes fuel (pos + 1) rest

/-- A part of a formatted string. -/
inductive Piece where
  | text
  | value (e : Tree) (spec : Option (List Piece))

/-- A place inside a token: the characters that follow, and their location in the source. -/
structure Spot where
  rest : List Char
  line : Nat
  column : Nat

namespace Spot

/-- Moves over some characters. -/
def skip (s : Spot) : Nat → Spot
  | 0 => s
  | n + 1 =>
    match s.rest with
    | [] => s
    | '\n' :: rest => skip ⟨rest, s.line + 1, 0⟩ n
    | c :: rest => skip ⟨rest, s.line, s.column + c.utf8Size⟩ n

end Spot

/-- The number of characters of literal text from here on, and whether the text ends in a doubled
brace, of which the second is not part of it. At the top level a lone closing brace is wrong. -/
def literalLength (raw top : Bool) : Nat → List Char → Except String (Nat × Bool)
  | 0, _ => .ok (0, false)
  | _, [] => .ok (0, false)
  | fuel + 1, c :: rest =>
    let more (n : Nat) (cs : List Char) : Except String (Nat × Bool) :=
      (literalLength raw top fuel cs).map fun (k, d) => (k + n, d)
    if !raw && c = '\\' && rest != [] then
      match rest with
      | 'N' :: '{' :: named =>
        let run := named.takeWhile (· != '}')
        more (run.length + 4) (named.drop (run.length + 1))
      | 'N' :: tail => more 2 tail
      | '{' :: tail => brace '{' tail 1
      | '}' :: tail => brace '}' tail 1
      | _ :: tail => more 2 tail
      | [] => .ok (1, false)
    else if c = '{' || c = '}' then brace c rest 0
    else more 1 rest
where
  /-- A brace behind `before` characters of text. -/
  brace (c : Char) (rest : List Char) (before : Nat) : Except String (Nat × Bool) :=
    if top && rest.head? = some c then .ok (before + 1, true)
    else if top && c = '}' then .error "f-string: single '\x7d' is not allowed"
    else .ok (before, false)

/-- The number of characters of an embedded expression. The arguments hold the quote in which the
scan is, with its size, and the open brackets. -/
def expressionLength (quote : Option (Char × Nat)) (stack : List Char) :
    Nat → List Char → Except String Nat
  | 0, _ => .ok 0
  | _, [] =>
    if quote.isSome then .error "f-string: unterminated string"
    else match stack with
      | [] => .error "f-string: expecting '\x7d'"
      | b :: _ => .error s!"f-string: unmatched '{b}'"
  | fuel + 1, c :: rest =>
    let more (q : Option (Char × Nat)) (st : List Char) (n : Nat) (cs : List Char) :=
      (expressionLength q st fuel cs).map (· + n)
    let tripled := match rest with
      | a :: b :: _ => a = c && b = c
      | _ => false
    if c = '\\' then .error "f-string expression part cannot include a backslash"
    else match quote with
      | some (q, size) =>
        if c = q then
          if size = 3 then
            if tripled then more none stack 3 (rest.drop 2) else more quote stack 1 rest
          else more none stack 1 rest
        else more quote stack 1 rest
      | none =>
        if c = '\'' || c = '"' then
          if tripled then more (some (c, 3)) stack 3 (rest.drop 2)
          else more (some (c, 1)) stack 1 rest
        else if c = '(' || c = '[' || c = '{' then
          if 200 ≤ stack.length then .error "f-string: too many nested parenthesis"
          else more none (c :: stack) 1 rest
        else if c = '#' then .error "f-string expression part cannot include '#'"
        else if stack = [] && (c = '!' || c = ':' || c = '}' || c = '=' || c = '>' || c = '<') then
          if rest.head? = some '=' && c != ':' && c != '}' then more none stack 2 (rest.drop 1)
          else if c = '>' || c = '<' then more none stack 1 rest
          else .ok 0
        else if c = ')' || c = ']' || c = '}' then
          match stack with
          | [] => .error s!"f-string: unmatched '{c}'"
          | b :: outer =>
            if Scanner.closing b = c then more none outer 1 rest
            else .error (s!"f-string: closing parenthesis '{c}' " ++
              s!"does not match opening parenthesis '{b}'")
        else more none stack 1 rest

/-- What parses an embedded expression: its source in parentheses, and the place of the opening
one. -/
abbrev Embedded := List Char → Location → Except Complaint Tree

/-- White space around an embedded expression. -/
def isGap (c : Char) : Bool := c = ' ' || c = '\t' || c = '\n' || c = '\x0c'

/-- Parses the parts of a formatted string from a spot on. `level` is 0 at the top and 1 in a
format specification; `here` makes a complaint of a text. -/
def pieces (embedded : Embedded) (here : String → Complaint) (raw : Bool) :
    Nat → Nat → Spot → Except Complaint (List Piece × Spot)
  | 0, _, s => .ok ([], s)
  | fuel + 1, level, s => do
    let (n, doubled) ← (literalLength raw (level = 0) s.rest.length.succ s.rest).mapError here
    let filled ← if raw then pure (n != 0)
      else (checkText (n + 1) 0 false (s.rest.take n)).mapError here
    let front := if filled then [Piece.text] else []
    let s := s.skip (if doubled then n + 1 else n)
    if doubled then
      let (tail, s) ← pieces embedded here raw fuel level s
      return (front ++ tail, s)
    match s.rest with
    | '{' :: inner =>
      if 2 ≤ level then throw (here "f-string: expressions nested too deeply")
      let size ← (expressionLength none [] inner.length.succ inner).mapError here
      let source := inner.take size
      let behind := s.skip (size + 1)
      if source.all isGap then
        match behind.rest with
        | '}' :: _ => throw (here "f-string: empty expression not allowed")
        | c :: _ => throw (here s!"f-string: expression required before '{c}'")
        | [] => throw (here "f-string: empty expression not allowed")
      let e ← embedded (['('] ++ source ++ [')']) ⟨s.line, s.column⟩
      let ended : Complaint := here "f-string: expecting '\x7d'"
      let (shown, behind) := match behind.rest with
        | '=' :: tail => ([Piece.text], behind.skip (1 + (tail.takeWhile isGap).length))
        | _ => ([], behind)
      let behind ← match behind.rest with
        | '!' :: tail =>
          let conversion := tail.takeWhile fun c => c != '}' && c != ':'
          if conversion.length = tail.length then throw ended
          else if conversion = [] then throw (here "f-string: missed conversion character")
          else if conversion = ['s'] || conversion = ['r'] || conversion = ['a'] then
            pure (behind.skip (1 + conversion.length))
          else throw (here ("f-string: invalid conversion character " ++
            Text.Quoted.text (String.ofList conversion) ++ ": expected 's', 'r', or 'a'"))
        | _ => pure behind
      let (spec, behind) ← match behind.rest with
        | [':'] => throw ended
        | ':' :: _ => do
          let (spec, behind) ← pieces embedded here raw fuel (level + 1) (behind.skip 1)
          pure (some spec, behind)
        | _ => pure (none, behind)
      match behind.rest with
      | '}' :: _ =>
        let (tail, s) ← pieces embedded here raw fuel level (behind.skip 1)
        return (front ++ shown ++ Piece.value e spec :: tail, s)
      | _ => throw ended
    | '}' :: _ => return (front, s)
    | _ => if level = 0 then return (front, s) else throw (here "f-string: expecting '\x7d'")

def mergeTexts : List Piece → List Piece
  | .text :: .text :: rest => mergeTexts (.text :: rest)
  | p :: rest => p :: mergeTexts rest
  | [] => []

mutual

/-- The tree of a part, at the place of the whole string. -/
def pieceTree (l : Location) : Piece → Tree
  | .text => .node .values (.constant .text) (some l) []
  | .value e none => .node .values .formattedValue (some l) [e.inField .value]
  | .value e (some spec) =>
    .node .values .formattedValue (some l)
      [e.inField .value, .node .formatSpec .joinedStr (some l) (pieceTrees l spec)]

def pieceTrees (l : Location) : List Piece → List Tree
  | [] => []
  | p :: ps => pieceTree l p :: pieceTrees l ps

end

/-- What the tokens read so far make. -/
structure Sum where
  formatted : Bool
  isBytes : Option Bool
  pieces : List Piece

def add (embedded : Embedded) (here : String → Complaint) (sum : Sum) (t : Token) :
    Except Complaint Sum := do
  let p := parts t.text
  if p.isBytes && p.body.any (fun c => 0x80 ≤ c.toNat) then
    throw (here "bytes can only contain ASCII literal characters")
  if p.isBytes && !p.raw then
    (checkBytes (p.body.length + 1) 0 p.body).mapError here
  let filled ← if p.raw || p.isBytes || p.formatted then pure (p.body != [])
    else (checkText (p.body.length + 1) 0 false p.body).mapError here
  if sum.isBytes.any (· != p.isBytes) then
    throw (here "cannot mix bytes and nonbytes literals")
  let column := t.column.getD 0 + Text.byteCount p.lead
  let parsed ← if p.formatted then
      (pieces embedded here p.raw (2 * p.body.length + 4) 0 ⟨p.body, t.line, column⟩).map (·.1)
    else pure (if filled && !p.isBytes then [Piece.text] else [])
  return ⟨sum.formatted || p.formatted, some p.isBytes, sum.pieces ++ parsed⟩

/-- The tree of adjacent string tokens. -/
def tree (embedded : Embedded) (site : Site) (tokens : List Token) : Outcome :=
  let here (message : String) : Complaint :=
    ⟨message, site.furthest.line, site.furthest.column.elim site.furthest.scan.bytes (· + 1), false⟩
  let l := site.first.location
  match tokens.foldlM (add embedded here) ⟨false, none, []⟩ with
  | .error c => .complain c
  | .ok sum =>
    let t := if sum.formatted then
        Tree.node .root .joinedStr (some l) (pieceTrees l (mergeTexts sum.pieces))
      else .node .root (.constant (if sum.isBytes.getD false then .bytes else .text)) (some l) []
    .yield (.tree t (Build.stopOf site))

end Grader.Source.TextToken
