import Std.Data.HashMap
import Grader.Source.Token
import Grader.Text.Normal

/-!
Parsing expression grammars over tokens. A grammar is data: each rule has alternatives, an
alternative is a sequence of expressions with a function that builds its value. `Peg.Parser.rule`
runs a grammar with ordered choice, remembers the results of marked rules, and grows the seed of
left recursive ones. Alternatives marked as diagnostic are tried only when the parser is asked to
explain a failure.
-/

namespace Grader.Source.Peg

/-- What matching a piece of a grammar yields. -/
inductive Item where
  | none
  | token (t : Token)
  | text (s : String)
  /-- A tree and the place where its text ends. -/
  | tree (t : Tree) (stop : Location)
  | many (items : List Item)

/-- A fault found by the parser: a text and a place. The column counts from 1, in bytes until the
complaint is settled and in characters from then on. -/
structure Complaint where
  message : String
  line : Nat
  column : Nat
  settled : Bool
  deriving Repr

/-- The value of an alternative: an item, no match of the whole rule, or a complaint. -/
inductive Outcome where
  | yield (item : Item)
  | decline
  | complain (c : Complaint)

/-- What an alternative knows of its surroundings when it builds its value: its first token, the
last token it matched, and the last token that the parser has looked at. -/
structure Site where
  first : Token
  last : Token
  furthest : Token

/-- How an alternative builds its value from the items it matched. -/
abbrev Build := Site → List Item → Outcome

mutual

/-- Parsing expressions over rules named by `ρ`. -/
inductive Expr (ρ : Type) where
  /-- A token of a kind. -/
  | kind (k : TokenKind)
  /-- A keyword or operator with the given text. -/
  | word (text : String)
  /-- A name with the given text, where it acts as a keyword. -/
  | soft (text : String)
  | rule (r : ρ)
  | group (alts : List (Alternative ρ))
  | opt (e : Expr ρ)
  /-- Any number of matches. -/
  | many (e : Expr ρ)
  /-- At least one match. -/
  | some (e : Expr ρ)
  /-- At least one match, with separators between them. -/
  | sep (separator e : Expr ρ)
  /-- Something that matches here, without being consumed. -/
  | ahead (e : Expr ρ)
  /-- Nothing that matches here. -/
  | absent (e : Expr ρ)
  /-- A keyword or operator without which parsing ends in a complaint. -/
  | forced (text : String)
  /-- From here on no other alternative of the rule is tried. -/
  | cut
  /-- A match found without diagnostic alternatives. -/
  | quiet (e : Expr ρ)
  /-- Adjacent string literals. -/
  | literals

inductive Alternative (ρ : Type) where
  | mk (diagnostic : Bool) (items : List (Expr ρ)) (build : Build)

end

/-- How the results of a rule are remembered. -/
inductive Memory where
  | none | plain | leftRecursive
  deriving DecidableEq

structure Body (ρ : Type) where
  memory : Memory
  alternatives : List (Alternative ρ)

/-- What running a grammar needs: the rules, a number for each, the scanned text, what a complaint
about a scanning fault says, and the value of adjacent string literals. -/
structure Grammar (ρ : Type) where
  body : ρ → Body ρ
  number : ρ → Nat
  scanned : Scanned
  faultComplaint : Complaint
  literals : Site → List Token → Outcome

/-- What a parser remembers: how many tokens it has looked at, the results of rules, and whether
diagnostic alternatives are tried. -/
structure State where
  fetched : Nat
  memo : Std.HashMap Nat (Option (Item × Nat))
  diagnostic : Bool

inductive Result where
  /-- A match up to the token with index `next`. -/
  | matched (item : Item) (next : Nat) (s : State)
  | failed (s : State)
  /-- No match, and no other alternative is to be tried. -/
  | closed (s : State)
  | complained (c : Complaint) (s : State)

variable {ρ : Type}

namespace Parser

def noToken : Token := ⟨.endOfText, "", 1, none, 1, 0, 0, ⟨1, 0, 0, 1⟩⟩

/-- The token with an index, counting as looked at; a scanning fault in its place is a
complaint. -/
def fetch (g : Grammar ρ) (i : Nat) (s : State) : Except Complaint (Token × State) :=
  let s := if s.fetched ≤ i then { s with fetched := i + 1 } else s
  match g.scanned.tokens[i]? with
  | some t => .ok (t, s)
  | none => .error g.faultComplaint

/-- The last token looked at. -/
def furthest (g : Grammar ρ) (s : State) : Token :=
  g.scanned.tokens.getD (s.fetched - 1) (g.scanned.tokens.back?.getD noToken)

/-- The surroundings of an alternative that matched the tokens from `start` to before `stop`. -/
def site (g : Grammar ρ) (start stop : Nat) (s : State) : Site :=
  ⟨g.scanned.tokens.getD start noToken, g.scanned.tokens.getD (stop - 1) noToken, furthest g s⟩

/-- The item of a token: names and numbers are trees already. -/
def itemOf (t : Token) : Item :=
  let stop : Location := ⟨t.endLine, t.endColumn⟩
  match t.kind with
  | .name => .tree (.node .root (.name (Text.Normal.ofName t.text)) (some t.location) []) stop
  | .number =>
    let imaginary := t.text.toList.getLast?.any fun c => c = 'j' || c = 'J'
    .tree (.node .root (.constant (.number imaginary)) (some t.location) []) stop
  | _ => .token t

/-- The greatest number of digits that a decimal integer may have. -/
def maxDigits : Nat := 4300

/-- The number of digits of a decimal integer literal, 0 for any other number. -/
def decimalDigits (text : String) : Nat :=
  let cs := text.toList.filter (· != '_')
  if cs.all Char.isDigit then cs.length else 0

/-- Matches one token that satisfies `p`. -/
def token (g : Grammar ρ) (i : Nat) (s : State) (p : Token → Bool) : Result :=
  match fetch g i s with
  | .error c => .complained c { s with fetched := max s.fetched (i + 1) }
  | .ok (t, s) =>
    if p t then
      if t.kind = .number && maxDigits < decimalDigits t.text then
        .complained ⟨s!"Exceeds the limit ({maxDigits} digits) for integer string conversion: " ++
          s!"value has {decimalDigits t.text} digits; use sys.set_int_max_str_digits() to " ++
          "increase the limit - Consider hexadecimal for huge integer literals to avoid " ++
          "decimal conversion limits.", t.line, 1, true⟩ s
      else .matched (itemOf t) (i + 1) s
    else .failed s

/-- Whether a token is the keyword or operator with a text. -/
def isWord (text : String) (t : Token) : Bool :=
  (t.kind = .keyword || t.kind = .operator) && t.text == text

/-- The run of string tokens from an index on, newest first. -/
def literalRun (g : Grammar ρ) : Nat → Nat → State → List Token →
    Except Complaint (List Token × Nat × State)
  | 0, i, s, acc => .ok (acc, i, s)
  | fuel + 1, i, s, acc =>
    match fetch g i s with
    | .error c => .error c
    | .ok (t, s) =>
      if t.kind = .text then literalRun g fuel (i + 1) s (t :: acc) else .ok (acc, i, s)

/-- The key under which the result of a rule at a token is remembered. -/
def key (g : Grammar ρ) (r : ρ) (i : Nat) : Nat := i * 1024 + g.number r

/-- The result of a left recursive rule from its longest match, if it has one. -/
def longest (seed : Option (Item × Nat)) (s : State) : Result :=
  match seed with
  | some (x, j) => .matched x j s
  | none => .failed s

mutual

/-- Matches an expression at the token with index `i`. -/
def expr (g : Grammar ρ) : Nat → Expr ρ → Nat → State → Result
  | 0, _, _, s => .failed s
  | fuel + 1, e, i, s =>
    match e with
    | .kind k => token g i s fun t => t.kind = k
    | .word text => token g i s (isWord text)
    | .soft text => token g i s fun t => t.kind = .name && t.text == text
    | .rule r => rule g fuel r i s
    | .group alts =>
      match choose g fuel alts i s with
      | .closed s => .failed s
      | r => r
    | .opt e =>
      match expr g fuel e i s with
      | .failed s => .matched .none i s
      | r => r
    | .many e => repeated g fuel e i s []
    | .some e =>
      match expr g fuel e i s with
      | .matched x j s => repeated g fuel e j s [x]
      | r => r
    | .sep separator e =>
      match expr g fuel e i s with
      | .matched x j s => separated g fuel separator e j s [x]
      | r => r
    | .ahead e =>
      match expr g fuel e i s with
      | .matched x _ s => .matched x i s
      | r => r
    | .absent e =>
      match expr g fuel e i s with
      | .matched _ _ s => .failed s
      | .failed s => .matched .none i s
      | r => r
    | .forced text =>
      match fetch g i s with
      | .error c => .complained c { s with fetched := max s.fetched (i + 1) }
      | .ok (t, s) =>
        if isWord text t then .matched (.token t) (i + 1) s
        else .complained ⟨s!"expected '{text}'", t.line, t.column.elim 0 (· + 1), false⟩ s
    | .cut => .matched .none i s
    | .quiet e =>
      let before := s.diagnostic
      match expr g fuel e i { s with diagnostic := false } with
      | .matched x j s => .matched x j { s with diagnostic := before }
      | .failed s => .failed { s with diagnostic := before }
      | .closed s => .closed { s with diagnostic := before }
      | .complained c s => .complained c { s with diagnostic := before }
    | .literals =>
      match literalRun g fuel i s [] with
      | .error c => .complained c { s with fetched := g.scanned.tokens.size + 1 }
      | .ok ([], _, s) => .failed s
      | .ok (ts, j, s) =>
        match g.literals (site g i j s) ts.reverse with
        | .yield x => .matched x j s
        | .decline => .failed s
        | .complain c => .complained c s

/-- Matches any number of further expressions; the items so far are newest first. -/
def repeated (g : Grammar ρ) : Nat → Expr ρ → Nat → State → List Item → Result
  | 0, _, i, s, acc => .matched (.many acc.reverse) i s
  | fuel + 1, e, i, s, acc =>
    match expr g fuel e i s with
    | .matched x j s =>
      if j = i then .matched (.many (x :: acc).reverse) i s
      else repeated g fuel e j s (x :: acc)
    | .failed s => .matched (.many acc.reverse) i s
    | r => r

/-- Matches further expressions, each behind a separator. -/
def separated (g : Grammar ρ) : Nat → Expr ρ → Expr ρ → Nat → State → List Item → Result
  | 0, _, _, i, s, acc => .matched (.many acc.reverse) i s
  | fuel + 1, separator, e, i, s, acc =>
    match expr g fuel separator i s with
    | .matched _ j s =>
      match expr g fuel e j s with
      | .matched x k s => separated g fuel separator e k s (x :: acc)
      | .failed s => .matched (.many acc.reverse) i s
      | r => r
    | .failed s => .matched (.many acc.reverse) i s
    | r => r

/-- Matches the first alternative that can be matched. -/
def choose (g : Grammar ρ) : Nat → List (Alternative ρ) → Nat → State → Result
  | 0, _, _, s => .failed s
  | _, [], _, s => .failed s
  | fuel + 1, .mk diagnostic items build :: rest, i, s =>
    if diagnostic && !s.diagnostic then choose g fuel rest i s
    else
      match sequence g fuel items build i i s false [] with
      | .failed s => choose g fuel rest i s
      | r => r

/-- Matches the items of an alternative from index `i` on; the alternative starts at `start`. -/
def sequence (g : Grammar ρ) :
    Nat → List (Expr ρ) → Build → Nat → Nat → State → Bool → List Item → Result
  | 0, _, _, _, _, s, _, _ => .failed s
  | fuel + 1, items, build, start, i, s, committed, acc =>
    match items with
    | [] =>
      match build (site g start i s) acc.reverse with
      | .yield x => .matched x i s
      | .decline => .closed s
      | .complain c => .complained c s
    | e :: rest =>
      let committed := match e with
        | .cut => true
        | _ => committed
      match expr g fuel e i s with
      | .matched x j s => sequence g fuel rest build start j s committed (x :: acc)
      | .failed s => if committed then .closed s else .failed s
      | r => r

/-- Matches a rule, by what is remembered of it where it is marked so. -/
def rule (g : Grammar ρ) : Nat → ρ → Nat → State → Result
  | 0, _, _, s => .failed s
  | fuel + 1, r, i, s =>
    let body := g.body r
    match body.memory with
    | .none =>
      match choose g fuel body.alternatives i s with
      | .closed s => .failed s
      | x => x
    | .plain =>
      match fetch g i s with
      | .error c => .complained c { s with fetched := max s.fetched (i + 1) }
      | .ok (_, s) =>
        match s.memo[key g r i]? with
        | some (some (x, j)) => .matched x j s
        | some none => .failed s
        | none =>
          match choose g fuel body.alternatives i s with
          | .matched x j s =>
            .matched x j { s with memo := s.memo.insert (key g r i) (some (x, j)) }
          | .failed s | .closed s => .failed { s with memo := s.memo.insert (key g r i) none }
          | x => x
    | .leftRecursive =>
      match fetch g i s with
      | .error c => .complained c { s with fetched := max s.fetched (i + 1) }
      | .ok (_, s) =>
        match s.memo[key g r i]? with
        | some (some (x, j)) => .matched x j s
        | some none => .failed s
        | none => grow g fuel r i { s with memo := s.memo.insert (key g r i) none } none

/-- Matches a left recursive rule again and again, each time with the longest match so far as the
remembered one, until the match grows no more. -/
def grow (g : Grammar ρ) : Nat → ρ → Nat → State → Option (Item × Nat) → Result
  | 0, _, _, s, _ => .failed s
  | fuel + 1, r, i, s, seed =>
    match choose g fuel (g.body r).alternatives i s with
    | .matched x j s =>
      if j ≤ seed.elim i (·.2) then longest seed s
      else grow g fuel r i { s with memo := s.memo.insert (key g r i) (some (x, j)) } (some (x, j))
    | .failed s | .closed s => longest seed s
    | c => c

end

end Parser

end Grader.Source.Peg
