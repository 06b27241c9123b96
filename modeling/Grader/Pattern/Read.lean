import Grader.Pattern.Class
import Grader.Pattern.Flags
import Grader.Text.Blank

/-!
Reading the text of a pattern as items: alternatives, groups and what stands between them.
-/

namespace Grader.Pattern

/-- What the characters behind an opening parenthesis open. -/
inductive Opening where
  /-- Nothing: a comment, or options of the whole pattern. -/
  | nothing
  | item (i : Item)
  | group (number : Option Nat) (flagged verbose : Bool)
  | atomic
  | look (refused behind : Bool)
  | condition (number : Nat)

/-- Where alternatives stand. -/
structure Level where
  nested : Bool
  /-- Whether there may be two alternatives at most. -/
  limited : Bool := false

namespace Reader

/-- Skips a comment up to its closing parenthesis. `fuel` bounds the number of tokens. -/
def skipComment (start : Nat) : Nat → Reader Unit
  | 0 => return
  | fuel + 1 => do
    match ← take with
    | none => failAt .unterminatedComment start
    | some t => if t = .plain ')' then return else skipComment start fuel

/-- Skips a comment up to the end of the line. `fuel` bounds the number of tokens. -/
def skipLine : Nat → Reader Unit
  | 0 => return
  | fuel + 1 => do
    match ← take with
    | none => return
    | some t => if t = .plain '\n' then return else skipLine fuel

def namedReference : Reader Item := do
  let n ← groupName ')'
  match (← get).names.lookup n with
  | none => fail (.unknownGroupName n) (n.length + 1)
  | some number =>
    if !(← isClosed number) then fail .openGroup (n.length + 1)
    checkBehind number
    return .reference number

/-- The number of groups that a pattern may have at most. -/
def groupLimit : Nat := 1073741823

/-- The group that a condition asks about. -/
def conditionGroup : Reader Nat := do
  let n ← name ')' "group name"
  let back := n.length + 1
  if isIdentifier n then
    match (← get).names.lookup n with
    | none => fail (.unknownGroupName n) back
    | some number =>
      checkBehind number
      return number
  else
    let (negative, body) := Decimal.splitSign (Text.strip n).toList
    match Decimal.dropUnderscores true body with
    | none => fail (.badGroupName n) back
    | some ds =>
      let number := valueIn 10 ds
      if negative && number != 0 then fail (.badGroupName n) back
      if number = 0 then fail .badGroupNumber back
      if number ≥ groupLimit then fail (.unknownGroup number) back
      modify fun p =>
        if (p.referred.lookup number).isSome then p
        else { p with referred := p.referred ++ [(number, p.place - back)] }
      checkBehind number
      return number

/-- What `P` behind the question mark opens: a group with a name, or a reference to one. -/
def namedOpening (verbose : Bool) : Reader Opening := do
  if ← accept '<' then
    let n ← groupName '>'
    return .group (some (← openGroup (some n))) false verbose
  else if ← accept '=' then return .item (← namedReference)
  else
    match ← take with
    | none => fail .unexpectedEnd
    | some t => fail (.unknownExtension ("P" ++ t.text)) (t.width + 2)

/-- What options behind the question mark open. -/
def optionsOpening (start : Nat) (verbose atFront : Bool) (first : Option Flag) :
    Reader Opening := do
  match ← options first with
  | .whole on =>
    setWhole on
    if atFront then return .nothing else failAt .lateFlags start
  | .grouped on off =>
    return .group none (!on.isEmpty || !off.isEmpty)
      ((verbose || on.contains .verbose) && !off.contains .verbose)

/-- What the characters behind a parenthesis and a question mark open. -/
def extension (start : Nat) (verbose atFront : Bool) : Reader Opening := do
  match ← take with
  | none => fail .unexpectedEnd
  | some (.escaped c) => fail (.unknownExtension (String.ofList ['\\', c])) 3
  | some (.plain c) =>
    if c = 'P' then namedOpening verbose
    else if c = ':' then return .group none false verbose
    else if c = '#' then
      skipComment start ((← get).rest.length + 1)
      return .nothing
    else if c = '=' then return .look false false
    else if c = '!' then return .look true false
    else if c = '<' then
      match ← take with
      | none => fail .unexpectedEnd
      | some t =>
        if t = .plain '=' then return .look false true
        else if t = .plain '!' then return .look true true
        else fail (.unknownExtension ("<" ++ t.text)) (t.width + 2)
    else if c = '(' then return .condition (← conditionGroup)
    else if c = '>' then return .atomic
    else if c = '-' then optionsOpening start verbose atFront none
    else match Flag.ofChar? c with
      | some f => optionsOpening start verbose atFront (some f)
      | none => fail (.unknownExtension c.toString) 2

def opening (start : Nat) (verbose atFront : Bool) : Reader Opening := do
  if ← accept '?' then extension start verbose atFront
  else return .group (some (← openGroup none)) false verbose

def closing (start : Nat) : Reader Unit := do
  if !(← accept ')') then failAt .unterminatedGroup start

/-- What a token stands for that opens nothing: the items with it added to them. -/
def single (start : Nat) (items : List Item) : Token → Reader (List Item)
  | .escaped c => return items ++ [← escape c]
  | .plain c =>
    if c = '[' then return items ++ [← classItem]
    else if c = '.' then return items ++ [.any]
    else if c = '^' then return items ++ [.anchor .beginning]
    else if c = '$' then return items ++ [.anchor .ending]
    else if c = '?' || c = '*' || c = '+' || c = '\x7b' then do
      match ← countFor c with
      | none => return items ++ [.literal c]
      | some count => repeatLast start count items
    else return items ++ [.literal c]

def lookItem (refused : Bool) (items : List Item) : Item :=
  if !refused then .required items else if items.isEmpty then .never else .refused

/-- Blanks that verbose patterns skip. -/
def isFiller (t : Token) : Bool :=
  t.isPlain fun c => c == ' ' || (9 ≤ c.toNat && c.toNat ≤ 13)

/-- Alternatives up to a closing parenthesis or the end: those that are complete, and the items of
the one that is being read. `fuel` bounds the number of tokens and levels. -/
def branches (level : Level) (verbose : Bool) (complete : List (List Item)) (items : List Item) :
    Nat → Reader (List (List Item))
  | 0 => return complete ++ [Item.inlined items]
  | fuel + 1 => do
    let start ← here
    match ← next with
    | none | some (.plain ')') => return complete ++ [Item.inlined items]
    | some (.plain '|') =>
      if level.limited && complete.length = 1 then fail .tooManyBranches
      let _ ← take
      let outer ← get
      let verbose := if level.nested then verbose else outer.verbose
      branches level verbose (complete ++ [Item.inlined items]) [] fuel
    | some t =>
      let _ ← take
      let goOn := fun verbose items => branches level verbose complete items fuel
      if verbose && isFiller t then goOn verbose items
      else if verbose && t = .plain '#' then
        skipLine ((← get).rest.length + 1)
        goOn verbose items
      else if t = .plain '(' then
        let atFront := !level.nested && complete.isEmpty && items.isEmpty
        match ← opening start verbose atFront with
        | .nothing =>
          let outer ← get
          goOn (if level.nested then verbose else outer.verbose) items
        | .item i => goOn verbose (items ++ [i])
        | .group number flagged inner =>
          let contents := Item.alternatives (← branches ⟨true, false⟩ inner [] [] fuel)
          closing start
          if let some n := number then closeGroup n
          goOn verbose (items ++ [.group number flagged contents])
        | .atomic =>
          let contents := Item.alternatives (← branches ⟨true, false⟩ verbose [] [] fuel)
          closing start
          goOn verbose (items ++ [.atomic contents])
        | .look refused behind =>
          let outer := (← get).behind
          if behind && outer.isNone then modify fun p => { p with behind := some p.groups }
          let contents := Item.alternatives (← branches ⟨true, false⟩ verbose [] [] fuel)
          if behind && outer.isNone then modify fun p => { p with behind := none }
          closing start
          goOn verbose (items ++ [lookItem refused contents])
        | .condition number =>
          let bs ← branches ⟨true, true⟩ verbose [] [] fuel
          closing start
          goOn verbose (items ++ [.conditional number (bs.headD []) bs.tail.flatten])
      else goOn verbose (← single start items t)

def whole : Reader (List Item) := do
  refuseLone
  let bs ← branches ⟨false, false⟩ false [] [] (2 * (← get).rest.length + 2)
  let p ← get
  if p.ascii && p.unicode then throw .flagsConflict
  if !p.rest.isEmpty then fail .unbalanced
  match p.referred.find? fun (n, _) => p.groups < n with
  | some (n, place) => failAt (.unknownGroup n) place
  | none => return Item.alternatives bs

end Reader

/-- The items of a pattern, or why its text is refused. -/
def read (text : List Char) : Except Fault (List Item) :=
  let (tokens, lone) := Token.scan text
  (Reader.whole.run { rest := tokens, lone := lone }).map (·.1)

end Grader.Pattern
