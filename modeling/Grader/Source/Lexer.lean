import Grader.Source.Token
import Grader.Text.Lines
import Grader.Text.Identifier
import Grader.Text.Printable
import Grader.Text.Quoted

/-!
The scanner of Python source text. `scan` turns the characters into tokens, with indentation as
tokens of its own, and stops at the first fault.
-/

namespace Grader.Source

/-- A place in the text. A line is entered when its first character is looked at, so that behind a
line feed the cursor still belongs to the finished line. -/
structure Cursor where
  rest : List Char
  line : Nat
  /-- Bytes read of the line. -/
  bytes : Nat
  /-- Characters read of the line. -/
  chars : Nat
  /-- Whether the line is read to its end. -/
  spent : Bool
  /-- The first line in view. -/
  view : Nat

namespace Cursor

/-- Enters the next line when the current one is spent and text is left. Inside a token the lines
before it stay in view. -/
def enter (c : Cursor) (inToken : Bool) : Cursor :=
  if c.spent && !c.rest.isEmpty then
    { c with line := c.line + 1, bytes := 0, chars := 0, spent := false,
             view := if inToken then c.view else c.line + 1 }
  else c

/-- The next character, not yet read. -/
def peek (c : Cursor) : Option Char := c.rest.head?

/-- Reads one character. -/
def next (c : Cursor) (inToken : Bool) : Option (Char × Cursor) :=
  match c.rest with
  | [] => none
  | ch :: rest =>
    let c := c.enter inToken
    some (ch, { c with rest := rest, bytes := c.bytes + ch.utf8Size, chars := c.chars + 1,
                       spent := ch = '\n' })

/-- Reads one character and forgets it. -/
def skip (c : Cursor) : Cursor := match c.next true with
  | some (_, d) => d
  | none => c

/-- Reads several characters of one line. -/
def skipMany (c : Cursor) : Nat → Cursor
  | 0 => c
  | n + 1 => c.skip.skipMany n

/-- Reads while the next character, on the same line, satisfies `p`. -/
def skipWhile (c : Cursor) (p : Char → Bool) : Cursor :=
  let c := c.enter false
  let run := c.rest.takeWhile (fun ch => ch != '\n' && p ch)
  { c with rest := c.rest.drop run.length, bytes := c.bytes + Text.byteCount run,
           chars := c.chars + run.length }

/-- Moves to the end of the line that is being read. -/
def toLineEnd (c : Cursor) : Cursor := (c.skipWhile fun _ => true).skip

def report (c : Cursor) : Scan := ⟨c.line, c.bytes, c.chars, c.view⟩

end Cursor

/-- The state of the scanner between tokens. -/
structure Scanner where
  cursor : Cursor
  /-- Indentations of the open blocks, by two measures of a tab, the innermost first. -/
  indents : List (Nat × Nat)
  /-- Indentation tokens that are due: blocks to open when positive, to close when negative. -/
  pending : Int
  /-- Open brackets, the innermost first. -/
  brackets : List Bracket
  atLineStart : Bool

/-- Words with a fixed meaning. -/
def keywords : List String :=
  ["False", "None", "True", "and", "as", "assert", "async", "await", "break", "class", "continue",
    "def", "del", "elif", "else", "except", "finally", "for", "from", "global", "if", "import",
    "in", "is", "lambda", "nonlocal", "not", "or", "pass", "raise", "return", "try", "while",
    "with", "yield"]

def longOperators : List String := ["**=", "//=", "<<=", ">>=", "..."]

def pairOperators : List String :=
  ["!=", "%=", "&=", "**", "*=", "+=", "-=", "->", "//", "/=", ":=", "<<", "<=", "<>", "==", ">=",
    ">>", "@=", "^=", "|="]

def maxBrackets : Nat := 200

/-- The greatest number of open blocks, the module among them. -/
def maxIndents : Nat := 100

inductive Step where
  | token (t : Token) (s : Scanner)
  | fault (f : ScanFault) (s : Scanner)

namespace Scanner

/-- A fault with a text, at the characters read so far. -/
def complain (s : Scanner) (c : Cursor) (message : String) : Step :=
  .fault (.worded message c.line c.chars) { s with cursor := c }

/-- A token from a start to the cursor. -/
def emit (s : Scanner) (kind : TokenKind) (start : Cursor) (text : String) (c : Cursor) : Step :=
  let s := { s with cursor := c }
  .token ⟨kind, text, start.line, some start.bytes, c.line, c.bytes, s.brackets.length, c.report⟩ s

/-- A token without columns. -/
def emitMark (s : Scanner) (kind : TokenKind) : Step :=
  let c := s.cursor
  .token ⟨kind, "", c.line, none, c.line, 0, s.brackets.length, c.report⟩ s

/-- The characters read between two places of one line. -/
def between (start c : Cursor) : String :=
  String.ofList (start.rest.take (c.chars - start.chars))

/-- Reads behind a backslash to the next line. -/
def continueLine (c : Cursor) : Except (ScanFault × Cursor) Cursor :=
  match c.next true with
  | some ('\n', d) =>
    if d.rest.isEmpty then .error (.ended, d) else .ok (d.enter true)
  | some (_, d) => .error (.continuation 0, d)
  | none => .error (.continuation 0, c)

/-- The bytes of the lines in view before the cursor. -/
def viewOffset (lineBytes : Array Nat) (c : Cursor) : Nat :=
  (List.range (c.line - c.view)).foldl (fun n i => n + lineBytes.getD (c.view + i - 1) 0) c.bytes

/-- Measures the indentation of a line: its width with tab stops of eight, its width with tabs of
one, and the width at the first backslash in it. -/
def measure (lineBytes : Array Nat) : Nat → Cursor → Nat → Nat → Nat →
    Except (ScanFault × Cursor) (Cursor × Nat × Nat)
  | 0, c, col, alt, _ => .ok (c, col, alt)
  | fuel + 1, c, col, alt, joined =>
    let c := c.enter false
    match c.peek with
    | some ' ' => measure lineBytes fuel c.skip (col + 1) (alt + 1) joined
    | some '\t' => measure lineBytes fuel c.skip ((col / 8 + 1) * 8) (alt + 1) joined
    | some '\x0c' => measure lineBytes fuel c.skip 0 0 joined
    | some '\\' =>
      let joined := if joined = 0 then col else joined
      match c.skip.next false with
      | some ('\n', d) =>
        if d.rest.isEmpty then .error (.ended, d)
        else measure lineBytes fuel (d.enter false) col alt joined
      | some (_, d) => .error (.continuation (viewOffset lineBytes d), d)
      | none => .error (.continuation (viewOffset lineBytes c.skip), c.skip)
    | _ => if joined = 0 then .ok (c, col, alt) else .ok (c, joined, joined)

/-- Closes blocks that are indented deeper than `col`. -/
def closeBlocks (col : Nat) : List (Nat × Nat) → Nat × List (Nat × Nat)
  | [] => (0, [])
  | (width, alt) :: rest =>
    if col < width && !rest.isEmpty then
      let (n, kept) := closeBlocks col rest
      (n + 1, kept)
    else (0, (width, alt) :: rest)

/-- Compares the indentation of a line with that of the open blocks. -/
def indentTo (s : Scanner) (col alt : Nat) : Except ScanFault Scanner :=
  match s.indents with
  | [] => .ok s
  | (width, altWidth) :: _ =>
    if col = width then if alt = altWidth then .ok s else .error .tabs
    else if width < col then
      if maxIndents ≤ s.indents.length then .error .depth
      else if alt ≤ altWidth then .error .tabs
      else .ok { s with indents := (col, alt) :: s.indents, pending := s.pending + 1 }
    else
      let (n, kept) := closeBlocks col s.indents
      match kept with
      | (w, a) :: _ =>
        if col != w then .error .unindent
        else if alt != a then .error .tabs
        else .ok { s with indents := kept, pending := s.pending - n }
      | [] => .ok s

/-- Handles the start of a line; the flag says that the line is blank or a comment. -/
def startLine (s : Scanner) (lineBytes : Array Nat) (fuel : Nat) :
    Except (ScanFault × Scanner) (Scanner × Bool) :=
  if !s.atLineStart then .ok (s, false)
  else
    match measure lineBytes fuel s.cursor 0 0 0 with
    | .error (f, c) => .error (f, { s with cursor := c })
    | .ok (c, col, alt) =>
      let s := { s with cursor := c, atLineStart := false }
      if c.peek = some '#' || c.peek = some '\n' then .ok (s, true)
      else if !s.brackets.isEmpty then .ok (s, false)
      else match s.indentTo col alt with
        | .ok s => .ok (s, false)
        | .error f => .error (f, { s with cursor := c.toLineEnd })

/-- Whether a character may stand in an identifier as far as the first look goes. -/
def isWordChar (c : Char) : Bool := c.isAlphanum || c = '_' || 128 ≤ c.toNat

/-- The number of characters before the quote if a string literal starts here. The arguments say
which of the letters `b`, `u`, `r` and `f` were seen. -/
def literalLead (b u r f : Bool) : List Char → Option Nat
  | [] => none
  | c :: rest =>
    let l := c.toLower
    let step (b u r f : Bool) : Option Nat :=
      match rest with
      | q :: _ => if q = '"' || q = '\'' then some 1 else (literalLead b u r f rest).map (· + 1)
      | [] => none
    if !(b || u || f) && l = 'b' then step true u r f
    else if !(b || u || r || f) && l = 'u' then step b true r f
    else if !(r || u) && l = 'r' then step b u true f
    else if !(f || b || u) && l = 'f' then step b u r true
    else none

/-- Reads the body of a string literal up to its closing quotes; `none` when the text or, for a
single quote, the line ends before. `seen` counts the quotes just read. -/
def literalBody (quote : Char) (size : Nat) : Nat → Nat → Cursor → Except Cursor Cursor
  | 0, _, c => .error c
  | fuel + 1, seen, c =>
    if seen = size then .ok c
    else match c.next true with
      | none => .error c
      | some (ch, d) =>
        if size = 1 && ch = '\n' then .error d
        else if ch = quote then literalBody quote size fuel (seen + 1) d
        else if ch = '\\' then literalBody quote size fuel 0 d.skip
        else literalBody quote size fuel 0 d

/-- Reads a string literal whose quote is the next character of `c`. -/
def literal (s : Scanner) (fuel : Nat) (start c : Cursor) : Step :=
  match c.next true with
  | none => s.emitMark .endOfText
  | some (quote, d) =>
    let opened : Nat × Nat × Cursor := match d.rest with
      | a :: b :: _ => if a = quote then if b = quote then (3, 0, d.skipMany 2) else (1, 1, d.skip)
        else (1, 0, d)
      | [a] => if a = quote then (1, 1, d.skip) else (1, 0, d)
      | [] => (1, 0, d)
    let (size, seen, body) := opened
    match literalBody quote size fuel seen body with
    | .ok stop =>
      s.emit .text start (String.ofList (start.rest.take (start.rest.length - stop.rest.length)))
        stop
    | .error stop =>
      let what := if size = 3 then "unterminated triple-quoted string literal"
        else "unterminated string literal"
      .fault (.worded s!"{what} (detected at line {stop.line})" start.line (start.chars + 1))
        { s with cursor := stop }

/-- Reads an identifier or keyword. -/
def word (s : Scanner) (start : Cursor) : Step :=
  let stop := start.skipWhile isWordChar
  let text := between start stop
  let cs := text.toList
  let bad := match cs with
    | [] => none
    | c :: rest =>
      if !Text.isNameStart c then some 0
      else (rest.findIdx? fun ch => !Text.isNamePart ch).map (· + 1)
  match bad with
  | none => s.emit (if keywords.contains text then .keyword else .name) start text stop
  | some i =>
    let c := cs.getD i ' '
    let code := String.ofList ((Text.Quoted.hex (if c.toNat < 0x10000 then 4
      else if c.toNat < 0x100000 then 5 else 6) c.toNat).map Char.toUpper)
    let message := if Text.isPrintable c then s!"invalid character '{c}' (U+{code})"
      else s!"invalid non-printable character U+{code}"
    s.complain (start.skipMany (i + 1)) message

/-- Whether a keyword that may follow a number directly starts here. -/
def keywordFollows : List Char → Bool
  | 'a' :: 'n' :: 'd' :: _ => true
  | 'e' :: 'l' :: 's' :: 'e' :: _ => true
  | 'f' :: 'o' :: 'r' :: _ => true
  | 'i' :: c :: _ => c = 'f' || c = 'n' || c = 's'
  | 'o' :: 'r' :: _ => true
  | _ => false

/-- Ends a number at the cursor, unless a letter or digit follows that belongs to no keyword. -/
def endNumber (s : Scanner) (start c : Cursor) (kind : String) : Step :=
  match c.peek with
  | some ch =>
    if !keywordFollows c.rest && isWordChar ch then s.complain c s!"invalid {kind} literal"
    else s.emit .number start (between start c) c
  | none => s.emit .number start (between start c) c

/-- Reads the digits of a run with single underscores between them; `.error` holds the cursor
behind an underscore that no digit follows. -/
def digitRun (isDigit : Char → Bool) : Nat → Cursor → Except Cursor Cursor
  | 0, c => .ok c
  | fuel + 1, c =>
    let c := c.skipWhile isDigit
    if c.peek = some '_' then
      match c.skip.peek with
      | some ch => if isDigit ch then digitRun isDigit fuel c.skip else .error c.skip
      | none => .error c.skip
    else .ok c

/-- Reads what may follow the digits of a decimal: an exponent and the mark of an imaginary. -/
def numberTail (s : Scanner) (fuel : Nat) (start c : Cursor) : Step :=
  let finish (c : Cursor) : Step :=
    match c.peek with
    | some ch =>
      if ch = 'j' || ch = 'J' then s.endNumber start c.skip "imaginary"
      else s.endNumber start c "decimal"
    | none => s.endNumber start c "decimal"
  let exponent (c : Cursor) : Step :=
    match digitRun Char.isDigit fuel c with
    | .ok d => finish d
    | .error d => s.complain d "invalid decimal literal"
  match c.peek with
  | some ch =>
    if ch = 'e' || ch = 'E' then
      let d := c.skip
      match d.peek with
      | some sign =>
        if sign = '+' || sign = '-' then
          match d.skip.peek with
          | some digit =>
            if digit.isDigit then exponent d.skip
            else s.complain d.skip "invalid decimal literal"
          | none => s.complain d.skip "invalid decimal literal"
        else if sign.isDigit then exponent d
        else if keywordFollows c.rest then s.emit .number start (between start c) c
        else s.complain c "invalid decimal literal"
      | none => s.complain c "invalid decimal literal"
    else finish c
  | none => finish c

/-- Reads a fraction behind its point. -/
def fraction (s : Scanner) (fuel : Nat) (start c : Cursor) : Step :=
  if (c.peek.map Char.isDigit).getD false then
    match digitRun Char.isDigit fuel c with
    | .ok d => s.numberTail fuel start d
    | .error d => s.complain d "invalid decimal literal"
  else s.numberTail fuel start c

/-- Reads the digits of a number in base 16, 8 or 2 behind its two leading characters. -/
def based (s : Scanner) (fuel : Nat) (start c : Cursor) (isDigit : Char → Bool) (kind : String) :
    Step :=
  let wrong (d : Cursor) : Step :=
    match d.peek with
    | some ch =>
      if ch.isDigit && kind != "hexadecimal" then
        s.complain d.skip s!"invalid digit '{ch}' in {kind} literal"
      else s.complain d s!"invalid {kind} literal"
    | none => s.complain d s!"invalid {kind} literal"
  let first := if c.peek = some '_' then c.skip else c
  if (first.peek.map isDigit).getD false then
    match digitRun isDigit fuel first with
    | .ok d =>
      if kind != "hexadecimal" && (d.peek.map Char.isDigit).getD false then wrong d
      else s.endNumber start d kind
    | .error d => wrong d
  else wrong first

def isHexDigit (c : Char) : Bool :=
  c.isDigit || ('a' ≤ c && c ≤ 'f') || ('A' ≤ c && c ≤ 'F')

/-- Reads a number that starts with a digit. -/
def number (s : Scanner) (fuel : Nat) (start : Cursor) : Step :=
  match start.peek with
  | some '0' =>
    let c := start.skip
    match c.peek with
    | some 'x' | some 'X' => s.based fuel start c.skip isHexDigit "hexadecimal"
    | some 'o' | some 'O' => s.based fuel start c.skip (fun d => '0' ≤ d && d < '8') "octal"
    | some 'b' | some 'B' => s.based fuel start c.skip (fun d => d = '0' || d = '1') "binary"
    | _ =>
      match digitRun Char.isDigit fuel start with
      | .error d => s.complain d "invalid decimal literal"
      | .ok d =>
        let nonzero := (between start d).toList.any fun ch => ch != '0' && ch != '_'
        match d.peek with
        | some '.' => s.fraction fuel start d.skip
        | some 'e' | some 'E' | some 'j' | some 'J' => s.numberTail fuel start d
        | _ =>
          if nonzero then
            .fault (.worded ("leading zeros in decimal integer literals are not permitted; " ++
              "use an 0o prefix for octal integers") start.line (start.bytes + 1))
              { s with cursor := d }
          else s.endNumber start d "decimal"
  | _ =>
    match digitRun Char.isDigit fuel start with
    | .error d => s.complain d "invalid decimal literal"
    | .ok d =>
      if d.peek = some '.' then s.fraction fuel start d.skip else s.numberTail fuel start d

def closing : Char → Char
  | '(' => ')'
  | '[' => ']'
  | _ => '}'

/-- Reads an operator, keeping track of brackets. -/
def operator (s : Scanner) (start : Cursor) (ch : Char) : Step :=
  let long := String.ofList (start.rest.take 3)
  let pair := String.ofList (start.rest.take 2)
  if longOperators.contains long then s.emit .operator start long (start.skipMany 3)
  else if pairOperators.contains pair then s.emit .operator start pair (start.skipMany 2)
  else
    let stop := start.skip
    let text := String.ofList [ch]
    if ch = '(' || ch = '[' || ch = '{' then
      if maxBrackets ≤ s.brackets.length then s.complain stop "too many nested parentheses"
      else
        { s with brackets := ⟨ch, start.line, start.bytes⟩ :: s.brackets }.emit .operator start
          text stop
    else if ch = ')' || ch = ']' || ch = '}' then
      match s.brackets with
      | [] => s.complain stop s!"unmatched '{ch}'"
      | b :: outer =>
        let s := { s with brackets := outer }
        if closing b.mark = ch then s.emit .operator start text stop
        else
          let message :=
            s!"closing parenthesis '{ch}' does not match opening parenthesis '{b.mark}'"
          s.complain stop
            (if b.line = start.line then message else s!"{message} on line {b.line}")
    else if Text.isPrintable ch then s.emit .operator start text stop
    else
      let code := String.ofList ((Text.Quoted.hex 4 ch.toNat).map Char.toUpper)
      s.complain stop s!"invalid non-printable character U+{code}"

/-- Reads the next token; `inner` bounds loops inside a token, and `fuel` the lines skipped. -/
def step (lineBytes : Array Nat) (inner : Nat) : Nat → Bool → Scanner → Step
  | 0, _, s => s.emitMark .endOfText
  | fuel + 1, resumed, s =>
    let started := if resumed then .ok (s, false) else s.startLine lineBytes inner
    match started with
    | .error (f, s) => .fault f s
    | .ok (s, blank) =>
      if s.pending < 0 then { s with pending := s.pending + 1 }.emitMark .dedent
      else if 0 < s.pending then { s with pending := s.pending - 1 }.emitMark .indent
      else
        let start := s.cursor.skipWhile fun ch => ch = ' ' || ch = '\t' || ch = '\x0c'
        let c := if start.peek = some '#' then start.skipWhile fun _ => true else start
        match c.peek with
        | none =>
          let s := { s with cursor := c }
          if s.brackets.isEmpty then s.emitMark .endOfText else .fault .ended s
        | some '\n' =>
          let s := { s with atLineStart := true }
          if blank || !s.brackets.isEmpty then
            step lineBytes inner fuel false { s with cursor := c.skip }
          else
            let d := c.skip
            .token ⟨.newline, "", c.line, some start.bytes, c.line, c.bytes, 0, d.report⟩
              { s with cursor := d }
        | some '\\' =>
          match continueLine c.skip with
          | .ok d => step lineBytes inner fuel true { s with cursor := d }
          | .error (.continuation _, d) =>
            .fault (.continuation (viewOffset lineBytes d)) { s with cursor := d }
          | .error (f, d) => .fault f { s with cursor := d }
        | some ch =>
          if isWordChar ch && !ch.isDigit then
            match literalLead false false false false c.rest with
            | some n => s.literal inner c (c.skipMany n)
            | none => s.word c
          else if ch.isDigit then s.number inner c
          else if ch = '"' || ch = '\'' then s.literal inner c c
          else if ch = '.' && ((c.skip.peek.map Char.isDigit).getD false) then
            s.fraction inner c c.skip
          else s.operator c ch

/-- Collects tokens until the text ends or a fault stops the scanner. -/
def run (lineBytes : Array Nat) (inner : Nat) : Nat → Scanner → Array Token → Scanned
  | 0, s, tokens => ⟨tokens, none, s.cursor.report, s.brackets⟩
  | fuel + 1, s, tokens =>
    match step lineBytes inner inner false s with
    | .fault f s => ⟨tokens, some f, s.cursor.report, s.brackets⟩
    | .token t s =>
      if t.kind = .endOfText then ⟨tokens.push t, none, s.cursor.report, s.brackets⟩
      else run lineBytes inner fuel s (tokens.push t)

end Scanner

/-- The characters that the scanner reads: lines end in line feeds, and a text that is a whole
file ends in one. -/
def preparedText (wholeFile : Bool) (cs : List Char) : List Char :=
  let cs := Text.unixLines cs
  if wholeFile && cs.getLast? != some '\n' then cs ++ ['\n'] else cs

/-- Scans prepared text whose first line has the given number. -/
def scan (firstLine : Nat) (cs : List Char) : Scanned :=
  let lineBytes := ((Text.splitFeeds cs).map fun l => Text.byteCount l + 1).toArray
  let padding := (List.replicate (firstLine - 1) 0).toArray
  let inner := cs.length + 8
  Scanner.run (padding ++ lineBytes) inner (4 * inner + 400)
    { cursor := ⟨cs, firstLine - 1, 0, 0, true, firstLine - 1⟩, indents := [(0, 0)], pending := 0,
      brackets := [], atLineStart := true } #[]

end Grader.Source
