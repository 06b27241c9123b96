import Grader.Source.Lexer
import Grader.Source.TextToken
import Grader.Source.Grammar.Statement
import Grader.Source.Grammar.Expression
import Grader.Source.Grammar.Pattern
import Grader.Source.Grammar.Fault

/-!
Parsing of whole texts. A first run of the grammar accepts or rejects; when it rejects, a second
run with the diagnostic alternatives looks for a better explanation. A scanning fault further on
takes precedence over a complaint of the grammar, and a bracket that stays open explains a
complaint on a later line.
-/

namespace Grader.Source

open Peg

/-- Why a text was rejected: the place counts lines and characters from 1. -/
structure SyntaxFault where
  message : String
  line : Nat
  column : Nat
  deriving Repr

def ruleBody : Production → Body Production
  | .statement r => Grammar.statementBody r
  | .expression r => Grammar.expressionBody r
  | .pattern r => Grammar.patternBody r
  | .fault r => Grammar.faultBody r

/-- The complaint that a bracket stays open. -/
def neverClosed (b : Bracket) : Complaint :=
  ⟨s!"'{b.mark}' was never closed", b.line, b.column + 1, false⟩

/-- The complaint about a scanning fault, made when the parser reaches it. -/
def faultComplaint (s : Scanned) : Complaint :=
  match s.fault with
  | none => ⟨"invalid syntax", s.scan.line, 0, false⟩
  | some (.worded message line column) => ⟨message, line, column, true⟩
  | some .unindent =>
    ⟨"unindent does not match any outer indentation level", s.scan.line, s.scan.bytes, false⟩
  | some .tabs =>
    ⟨"inconsistent use of tabs and spaces in indentation", s.scan.line, 1, false⟩
  | some .depth => ⟨"too many levels of indentation", s.scan.line, 1, false⟩
  | some (.continuation offset) =>
    ⟨"unexpected character after line continuation character", s.scan.line, offset, false⟩
  | some .ended =>
    match s.brackets with
    | b :: _ => neverClosed b
    | [] => ⟨"unexpected EOF while parsing", s.scan.line, s.scan.bytes, false⟩

/-- A text with what complaints about it need: its prepared characters, the lines that a complaint
may be shown with instead of its own, and how far columns on its first line are shifted. -/
structure SourceText where
  chars : List Char
  firstLine : Nat
  /-- The line of a file of the same name, if there is one. -/
  shown : Nat → Option (List Char)
  /-- Whether columns are counted in characters. -/
  decoded : Bool

/-- The number of characters among the first bytes of a text; a character that is cut counts. -/
def charsInBytes : Nat → List Char → Nat
  | 0, _ => 0
  | _, [] => 0
  | n + 1, c :: rest => 1 + charsInBytes (n + 1 - c.utf8Size) rest

/-- The lines of a source from one number to another, with the line feeds behind them. -/
def SourceText.lineText (src : SourceText) (first last : Nat) : List Char :=
  let lines := (Text.splitFeeds src.chars).drop (first - src.firstLine)
  (lines.take (last + 1 - first)).flatMap fun l => l ++ ['\n']

/-- The text with which a complaint is shown: the line of the file of that name, or the lines in
view of the scanner when the complaint is about the line that it reads, or else its own line. -/
def SourceText.textFor (src : SourceText) (scan : Scan) (line : Nat) : List Char :=
  match src.shown line with
  | some text => text
  | none =>
    if scan.line ≤ line && src.firstLine ≤ scan.line then src.lineText scan.view scan.line
    else (src.lineText line line).dropLast

/-- Counts the column of a complaint in characters. -/
def SourceText.settle (src : SourceText) (scan : Scan) (c : Complaint) : Complaint :=
  if c.settled || !src.decoded then c
  else
    let text := src.textFor scan c.line
    { c with column := charsInBytes (min c.column (Text.byteCount text + 1)) text, settled := true }

/-- The outcome of running the grammar on a text. -/
def explain (src : SourceText) (g : Grammar Production) (start : Production) : Except Complaint Tree :=
  let scanned := g.scanned
  let fuel := 4000 * (scanned.tokens.size + 10)
  let settle (s : State) (c : Complaint) : Complaint :=
    let scan := if scanned.tokens.size < s.fetched then scanned.scan
      else (Parser.furthest g s).scan
    src.settle scan c
  -- A complaint of the grammar gives way to a fault that the scanner meets further on.
  let override (s : State) (c : Complaint) : Complaint :=
    if scanned.tokens.size ≤ s.fetched && scanned.fault.isNone then c
    else match scanned.fault with
      | some (.worded message line column) => ⟨message, line, column, true⟩
      | some _ =>
        match scanned.brackets with
        | b :: _ =>
          if b.line < (Parser.furthest g s).line then src.settle scanned.scan (neverClosed b)
          else c
        | [] => c
      | none => c
  let reached (s : State) : Bool := scanned.tokens.size < s.fetched
  match Parser.rule g fuel start 0 ⟨0, ∅, false⟩ with
  | .matched (.tree t _) _ _ => .ok t
  | .complained c s =>
    if reached s then .error (settle s c) else .error (override s (settle s c))
  | .matched _ _ s | .failed s | .closed s =>
    let last := Parser.furthest g s
    match Parser.rule g fuel start 0 ⟨s.fetched, ∅, true⟩ with
    | .complained c s =>
      if reached s then .error (settle s c) else .error (override s (settle s c))
    | .matched _ _ s | .failed s | .closed s =>
      let here (message : String) : Complaint :=
        let t := Parser.furthest g s
        ⟨message, t.line, t.column.elim t.scan.bytes (· + 1), false⟩
      match last.kind with
      | .indent => .error (settle s (here "unexpected indent"))
      | .dedent => .error (settle s (here "unexpected unindent"))
      | _ =>
        .error (override s (settle s
          ⟨"invalid syntax", last.line, last.column.elim 0 (· + 1), false⟩))

/-- Moves the tokens on one line to the right. -/
def shiftTokens (line columns : Nat) (s : Scanned) : Scanned :=
  { s with tokens := s.tokens.map fun t =>
      if t.scan.line = line then
        { t with column := t.column.map (· + columns), endColumn := t.endColumn + columns }
      else t }

/-- The grammar of Python over a scanned text, given the value of string literals. -/
def grammarOver (scanned : Scanned) (literals : Site → List Token → Outcome) : Grammar Production :=
  { body := ruleBody, number := Production.number, scanned := scanned,
    faultComplaint := faultComplaint scanned, literals := literals }

/-- The value of string literals; `depth` bounds how deep formatted strings are nested. -/
def literalsAt : Nat → Site → List Token → Outcome
  | 0 => TextToken.tree fun _ l =>
    .error ⟨"f-string: expressions nested too deeply", l.line, l.column + 1, false⟩
  | depth + 1 => TextToken.tree fun cs l =>
    let chars := preparedText true cs
    let scanned := shiftTokens l.line l.column (scan l.line chars)
    let src : SourceText := ⟨chars, l.line, fun _ => none, false⟩
    match explain src (grammarOver scanned (literalsAt depth)) (.expression .embedded) with
    | .ok t => .ok t
    | .error c =>
      if c.settled then .error c
      else .error ⟨"f-string: " ++ c.message, c.line, c.column - l.column, true⟩

/-- The deepest nesting of formatted strings; quotes run out long before. -/
def maxLiteralDepth : Nat := 16

/-- Parses a text from a start rule; `shown` gives the lines of a file of the same name. -/
def parseFrom (start : Production) (wholeFile : Bool) (shown : Nat → Option (List Char))
    (text : List Char) : Except SyntaxFault Tree :=
  let chars := preparedText wholeFile text
  let src : SourceText := ⟨chars, 1, shown, true⟩
  match explain src (grammarOver (scan 1 chars) (literalsAt maxLiteralDepth)) start with
  | .ok t => .ok t
  | .error c => .error ⟨c.message, c.line, if c.column = 0 then 1 else c.column⟩

def parseModule (shown : Nat → Option (List Char)) (text : List Char) : Except SyntaxFault Tree :=
  parseFrom (.statement .file) true shown text

/-- Parses a text that is a single expression. -/
def parseExpression (text : List Char) : Except SyntaxFault Tree :=
  parseFrom (.expression .evaluated) false (fun _ => none) text

end Grader.Source
