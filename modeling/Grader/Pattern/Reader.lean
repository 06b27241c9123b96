import Grader.Pattern.Fault
import Grader.Text.Identifier

/-!
Reading the text of a pattern. The text is a list of tokens, each a character or a backslash with
the character behind it; a reader takes tokens off its front and keeps account of the groups and
the flags that it has seen.
-/

namespace Grader.Pattern

/-- A character of a pattern, or a backslash and the character behind it. -/
inductive Token where
  | plain (c : Char)
  | escaped (c : Char)
  deriving Repr, DecidableEq

namespace Token

/-- The characters of a token. -/
def chars : Token → List Char
  | plain c => [c]
  | escaped c => ['\\', c]

def text (t : Token) : String := String.ofList t.chars

/-- The number of characters of a token. -/
def width (t : Token) : Nat := t.chars.length

/-- Whether the token is a character that satisfies `p`. -/
def isPlain (p : Char → Bool) : Token → Bool
  | plain c => p c
  | escaped _ => false

/-- The tokens of a text, and whether a lone backslash is left at its end. -/
def scan : List Char → List Token × Bool
  | [] => ([], false)
  | '\\' :: [] => ([], true)
  | '\\' :: c :: rest =>
    let (ts, lone) := scan rest
    (escaped c :: ts, lone)
  | c :: rest =>
    let (ts, lone) := scan rest
    (plain c :: ts, lone)

end Token

/-- What a reader has left and what it has seen. -/
structure Progress where
  rest : List Token
  /-- The number of characters in front of the rest. -/
  place : Nat := 0
  /-- Whether a lone backslash follows the rest. -/
  lone : Bool := false
  /-- The number of groups that were opened. -/
  groups : Nat := 0
  closed : List Nat := []
  names : List (String × Nat) := []
  /-- The number of groups in front of the lookbehind that is being read. -/
  behind : Option Nat := none
  /-- The numbers that conditions refer to, each with its first place. -/
  referred : List (Nat × Nat) := []
  verbose : Bool := false
  ascii : Bool := false
  unicode : Bool := false

abbrev Reader := StateT Progress (Except Fault)

namespace Reader

/-- Refuses the pattern, some characters back from here. -/
def fail {α : Type} (cause : Cause) (back : Nat := 0) : Reader α := do
  throw (.syntaxError cause ((← get).place - back))

/-- Refuses the pattern at a place. -/
def failAt {α : Type} (cause : Cause) (place : Nat) : Reader α := throw (.syntaxError cause place)

/-- The number of characters read. -/
def here : Reader Nat := return (← get).place

def next : Reader (Option Token) := return (← get).rest.head?

/-- Refuses a lone backslash that has come to the front. -/
def refuseLone : Reader Unit := do
  let p ← get
  if p.rest.isEmpty && p.lone then fail .danglingEscape

/-- Takes the next token off. -/
def take : Reader (Option Token) := do
  let p ← get
  match p.rest with
  | [] => return none
  | t :: rest =>
    set { p with rest := rest, place := p.place + t.width }
    refuseLone
    return some t

/-- Takes a character off if it comes next. -/
def accept (c : Char) : Reader Bool := do
  if (← next) = some (.plain c) then
    let _ ← take
    return true
  else return false

/-- Takes off at most `count` characters that satisfy `p`. -/
def takeChars (p : Char → Bool) : Nat → Reader (List Char)
  | 0 => return []
  | count + 1 => do
    match ← next with
    | some (.plain c) =>
      if p c then
        let _ ← take
        return c :: (← takeChars p count)
      else return []
    | _ => return []

/-- The text up to a terminator, which is taken off too. `fuel` bounds the number of tokens. -/
def untilChar (terminator : Char) (what : String) (read : List Char) : Nat → Reader String
  | 0 => return String.ofList read
  | fuel + 1 => do
    match ← take with
    | none =>
      if read.isEmpty then fail (.missing what) else fail (.unterminatedName terminator) read.length
    | some t =>
      if t = .plain terminator then
        if read.isEmpty then fail (.missing what) 1 else return String.ofList read
      else untilChar terminator what (read ++ t.chars) fuel

def name (terminator : Char) (what : String) : Reader String := do
  untilChar terminator what [] ((← get).rest.length + 1)

def isIdentifier (s : String) : Bool :=
  match s.toList with
  | [] => false
  | c :: cs => Text.isNameStart c && cs.all Text.isNamePart

/-- The name of a group up to a terminator; it has to be an identifier. -/
def groupName (terminator : Char) : Reader String := do
  let n ← name terminator "group name"
  if isIdentifier n then return n else fail (.badGroupName n) (n.length + 1)

def isClosed (number : Nat) : Reader Bool := return (← get).closed.contains number

/-- Refuses a group that a lookbehind may not refer to. -/
def checkBehind (number : Nat) : Reader Unit := do
  match (← get).behind with
  | none => return
  | some groups =>
    if !(← isClosed number) then fail .openGroup
    if number > groups then fail .groupBehind

/-- Opens a group, which may have a name. -/
def openGroup (given : Option String) : Reader Nat := do
  let p ← get
  let number := p.groups + 1
  set { p with groups := number }
  match given with
  | none => return number
  | some n =>
    match p.names.lookup n with
    | some before => fail (.groupRedefined n number before) (n.length + 1)
    | none =>
      modify fun p => { p with names := (n, number) :: p.names }
      return number

def closeGroup (number : Nat) : Reader Unit :=
  modify fun p => { p with closed := number :: p.closed }

end Reader

end Grader.Pattern
