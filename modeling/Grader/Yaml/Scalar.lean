import Grader.Yaml.Cursor

/-!
Scalars: quoted ones, literal and folded blocks, and plain ones. Line ends inside a scalar fold to
blanks, except in literal blocks.
-/

namespace Grader.Yaml

/-- The text of folded line ends: a single one is a blank, of several the first is dropped. -/
def folded (first : List Char) (more : List Char) : List Char :=
  if first != ['\n'] then first ++ more
  else if more.isEmpty then [' '] else more

def hexValue? (c : Char) : Option Nat :=
  if c.isDigit then some (c.toNat - 48)
  else if 'a' ≤ c && c ≤ 'f' then some (c.toNat - 87)
  else if 'A' ≤ c && c ≤ 'F' then some (c.toNat - 55)
  else none

def hexDigits? (cs : List Char) : Option Nat :=
  cs.foldlM (fun n c => (hexValue? c).map (16 * n + ·)) 0

/-- Characters that a backslash and one letter stand for. -/
def escapes : List (Char × Char) :=
  [('0', '\x00'), ('a', '\x07'), ('b', '\x08'), ('t', '\t'), ('\t', '\t'), ('n', '\n'),
    ('v', '\x0b'), ('f', '\x0c'), ('r', '\r'), ('e', '\x1b'), (' ', ' '), ('"', '"'),
    ('\\', '\\'), ('/', '/'), ('N', '\x85'), ('_', '\xa0'), ('L', '\u2028'), ('P', '\u2029')]

/-- The number of hexadecimal digits behind a backslash and a letter. -/
def escapeLength : Char → Option Nat
  | 'x' => some 2
  | 'u' => some 4
  | 'U' => some 8
  | _ => none

/-- The line ends inside a quoted scalar, blanks around them dropped. A document marker may not
stand at the start of a line. -/
def quotedBreaks : Nat → Cursor → Option (List Char × Cursor)
  | 0, _ => none
  | fuel + 1, c =>
    if c.atMarker then none
    else
      let c := c.skipWhile fun x => x == ' ' || x == '\t'
      if isBreak c.peek then
        let (b, c) := c.lineBreak
        (quotedBreaks fuel c).map fun (more, c) => (b ++ more, c)
      else some ([], c)

/-- An escape sequence behind its backslash. -/
def escape (fuel : Nat) (c : Cursor) : Option (List Char × Cursor) :=
  let x := c.peek
  match escapes.find? (·.1 == x), escapeLength x with
  | some (_, y), _ => some ([y], c.forward)
  | none, some n =>
    let ds := c.forward.ahead n
    if ds.length = n then
      (hexDigits? ds).map fun v => ([Char.ofNat v], c.forward.skip n)
    else none
  | none, none =>
    if isBreak x then quotedBreaks fuel c.lineBreak.2 else none

/-- Characters that interrupt the run of a quoted scalar. -/
def stopsQuoted (x : Char) : Bool :=
  x == '\'' || x == '"' || x == '\\' || isWideGap x

/-- The rest of a quoted scalar behind its opening mark, with its closing mark; `double` says which
mark it has. -/
def quotedRest (double : Bool) : Nat → Cursor → Option (List Char × Cursor)
  | 0, _ => none
  | fuel + 1, c =>
    let (run, c) := c.takeWhile fun x => !stopsQuoted x
    let more (text : List Char) (c : Cursor) :=
      (quotedRest double fuel c).map fun (rest, c) => (run ++ text ++ rest, c)
    let x := c.peek
    if !double && x == '\'' && c.peekAt 1 == '\'' then more ['\''] (c.skip 2)
    else if x == (if double then '"' else '\'') then some (run, c.forward)
    else if (double && x == '\'') || (!double && (x == '"' || x == '\\')) then more [x] c.forward
    else if x == '\\' then (escape fuel c.forward).bind fun (text, c) => more text c
    else
      let (blanks, c) := c.takeWhile fun x => x == ' ' || x == '\t'
      if isBreak c.peek then
        let (first, c) := c.lineBreak
        (quotedBreaks fuel c).bind fun (breaks, c) => more (folded first breaks) c
      else if c.rest.isEmpty then none
      else more blanks c

/-- A quoted scalar at its opening mark. -/
def quotedScalar (c : Cursor) : Option (List Char × Cursor) :=
  quotedRest (c.peek == '"') (c.rest.length + 2) c.forward

/-- How the line ends behind a block scalar are kept: all, one or none. -/
inductive Chomping where
  | strip | clip | keep
  deriving Repr, DecidableEq

/-- A sign that says how line ends are kept. -/
def chompingOf? (x : Char) : Option Chomping :=
  if x == '+' then some .keep else if x == '-' then some .strip else none

/-- A digit that states the indentation of a block scalar; zero is refused. -/
def incrementAt (c : Cursor) : Option (Option Nat × Cursor) :=
  if c.peek.isDigit then
    if c.peek == '0' then none else some (some (c.peek.toNat - 48), c.forward)
  else some (none, c)

/-- The indicators behind the mark of a block scalar, in either order. -/
def blockIndicators (c : Cursor) : Option (Chomping × Option Nat × Cursor) := do
  let (chomping, increment, c) ← match chompingOf? c.peek with
    | some k => (incrementAt c.forward).map fun (n, c) => (k, n, c)
    | none => (incrementAt c).map fun (n, c) =>
      match n, chompingOf? c.peek with
      | some _, some k => (k, n, c.forward)
      | _, _ => (Chomping.clip, n, c)
  if isGap c.peek then some (chomping, increment, c) else none

/-- The rest of a line that holds nothing but blanks and a comment. -/
def ignoredLine (c : Cursor) : Option Cursor :=
  let c := c.skipBlanks.skipComment
  if isBreakOrEnd c.peek then some c.lineBreak.2 else none

/-- The empty lines in front of a block scalar, and the deepest indentation among them and the
first line with text. -/
def blockIndentation : Nat → Cursor → Nat → List Char × Nat × Cursor
  | 0, c, deepest => ([], deepest, c)
  | fuel + 1, c, deepest =>
    if isBreak c.peek then
      let (b, c) := c.lineBreak
      let (more, deepest, c) := blockIndentation fuel c deepest
      (b ++ more, deepest, c)
    else if c.peek == ' ' then
      let c := c.forward
      blockIndentation fuel c (max deepest c.column)
    else ([], deepest, c)

/-- The empty lines between the lines of a block scalar with an indentation. -/
def blockBreaks (indent : Nat) : Nat → Cursor → List Char × Cursor
  | 0, c => ([], c)
  | fuel + 1, c =>
    let c := c.skipIndent indent
    if isBreak c.peek then
      let (b, c) := c.lineBreak
      let (more, c) := blockBreaks indent fuel c
      (b ++ more, c)
    else ([], c)

/-- The lines of a block scalar from one that starts at its indentation; `pending` are the empty
lines in front of it. The answer is the text, the line end of the last line and the empty lines
behind it. -/
def blockLines (isFolded : Bool) (indent : Nat) :
    Nat → Cursor → List Char → List Char × List Char × List Char × Cursor
  | 0, c, pending => ([], [], pending, c)
  | fuel + 1, c, pending =>
    let startsWithText := c.peek != ' ' && c.peek != '\t'
    let (text, c) := c.takeWhile fun x => !isBreakOrEnd x
    let (lineEnd, c) := c.lineBreak
    let (breaks, c) := blockBreaks indent (c.rest.length + 1) c
    if c.column == indent && !c.rest.isEmpty then
      let joint :=
        if isFolded && lineEnd == ['\n'] && startsWithText && c.peek != ' ' && c.peek != '\t' then
          if breaks.isEmpty then [' '] else []
        else lineEnd
      let (more, last) := blockLines isFolded indent fuel c breaks
      (pending ++ text ++ joint ++ more, last)
    else (pending ++ text, lineEnd, breaks, c)

/-- A block scalar at its mark, in a block with an indentation. -/
def blockScalar (isFolded : Bool) (outer : Int) (c : Cursor) : Option (List Char × Cursor) := do
  let (chomping, increment, c) ← blockIndicators c.forward
  let c ← ignoredLine c
  let least := max 1 (outer + 1).toNat
  let (breaks, indent, c) := match increment with
    | some n =>
      let (breaks, c) := blockBreaks (least + n - 1) (c.rest.length + 1) c
      (breaks, least + n - 1, c)
    | none =>
      let (breaks, deepest, c) := blockIndentation (c.rest.length + 1) c 0
      (breaks, max least deepest, c)
  let (text, lineEnd, trailing, c) :=
    if c.column == indent && !c.rest.isEmpty then
      blockLines isFolded indent (c.rest.length + 1) c breaks
    else ([], [], breaks, c)
  let text := if chomping = .strip then text else text ++ lineEnd
  return (if chomping = .keep then text ++ trailing else text, c)

/-- Whether a plain scalar ends at the character at hand, which is followed by another one. -/
def stopsPlain (inFlow : Bool) (x next : Char) : Bool :=
  isWideGap x ||
    (x == ':' && (isWideGap next || (inFlow && [',', '[', ']', '{', '}'].contains next))) ||
    (inFlow && [',', '?', '[', ']', '{', '}'].contains x)

/-- The first word of a plain scalar. -/
def plainWord (inFlow : Bool) : List Char → List Char
  | [] => []
  | x :: rest =>
    if stopsPlain inFlow x (rest.headD '\x00') then [] else x :: plainWord inFlow rest

/-- The empty lines inside a plain scalar, blanks dropped; `none` at a document marker. -/
def plainBreaks : Nat → Cursor → Option (List Char) × Cursor
  | 0, c => (some [], c)
  | fuel + 1, c =>
    let c := c.skipBlanks
    if isBreak c.peek then
      let (b, c) := c.lineBreak
      if c.atMarker then (none, c)
      else
        let (more, c) := plainBreaks fuel c
        (more.map (b ++ ·), c)
    else (some [], c)

/-- What stands between two words of a plain scalar, and whether a line ended there. Nothing stands
there when the scalar must end. -/
def plainSpaces (c : Cursor) : List Char × Bool × Cursor :=
  let (blanks, c) := c.takeWhile (· == ' ')
  if isBreak c.peek then
    let (first, c) := c.lineBreak
    if c.atMarker then ([], true, c)
    else
      let (breaks, c) := plainBreaks (c.rest.length + 1) c
      ((breaks.map (folded first)).getD [], true, c)
  else (blanks, false, c)

/-- The rest of a plain scalar; `spaces` stand in front of its next word. The answer also says
whether a line ended behind the last word. -/
def plainRest (inFlow : Bool) (indent : Int) :
    Nat → Cursor → List Char → Bool → List Char × Bool × Cursor
  | 0, c, _, ended => ([], ended, c)
  | fuel + 1, c, spaces, ended =>
    if c.peek == '#' then ([], ended, c)
    else
      let word := plainWord inFlow c.rest
      if word.isEmpty then ([], ended, c)
      else
        let c := c.skip word.length
        let (next, ended, c) := plainSpaces c
        if next.isEmpty || c.peek == '#' || (!inFlow && Int.ofNat c.column < indent) then
          (spaces ++ word, ended, c)
        else
          let (more, ended, c) := plainRest inFlow indent fuel c next ended
          (spaces ++ word ++ more, ended, c)

/-- A plain scalar in a block with an indentation, and whether a line ended behind it. -/
def plainScalar (inFlow : Bool) (outer : Int) (c : Cursor) : List Char × Bool × Cursor :=
  plainRest inFlow (outer + 1) (c.rest.length + 1) c [] false

end Grader.Yaml
