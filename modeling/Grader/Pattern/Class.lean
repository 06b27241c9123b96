import Grader.Pattern.Escape

/-!
Classes of characters and counts of repetition in the text of a pattern.
-/

namespace Grader.Pattern.Reader

/-- The member that a token of a class stands for. -/
def memberOf : Token → Reader Member
  | .plain c => return .literal c
  | .escaped c => classEscape c

/-- A range of a class between two members, the tokens of which are shown if it is refused. -/
def rangeOf (first last : Token) (low high : Member) : Reader Member :=
  let refused := Cause.badRange first.text last.text
  let back := first.width + 1 + last.width
  match low, high with
  | .literal a, .literal b => if b < a then fail refused back else return .range a b
  | _, _ => fail refused back

/-- The members of a class up to its closing bracket; a bracket that comes first is a member.
`fuel` bounds the number of tokens. -/
def classMembers (start : Nat) (members : List Member) : Nat → Reader (List Member)
  | 0 => failAt .unterminatedSet start
  | fuel + 1 => do
    match ← take with
    | none => failAt .unterminatedSet start
    | some first =>
      if first = .plain ']' && !members.isEmpty then return members
      else
        let low ← memberOf first
        if ← accept '-' then
          match ← take with
          | none => failAt .unterminatedSet start
          | some last =>
            if last = .plain ']' then return members ++ [low, .literal '-']
            else
              let r ← rangeOf first last low (← memberOf last)
              classMembers start (members ++ [r]) fuel
        else classMembers start (members ++ [low]) fuel

/-- A class of characters, the opening bracket of which was read. -/
def classItem : Reader Item := do
  let start := (← here) - 1
  let negated ← accept '^'
  let members ← classMembers start [] ((← get).rest.length + 1)
  return .ofClass negated members

/-- The least count that is too large to repeat. -/
def repeatLimit : Nat := 4294967295

def countOf (ds : List Char) : Reader Nat :=
  let n := valueIn 10 ds
  if n < repeatLimit then return n else throw .repetition

/-- How often an item is repeated: at least, and at most if there is a bound. -/
structure Count where
  least : Nat
  most : Option Nat

/-- The count between braces, the first of which was read; nothing when it is no count and the
brace stands for itself. -/
def bracedCount : Reader (Option Count) := do
  let before ← get
  let low ← takeChars Char.isDigit before.rest.length
  let comma ← accept ','
  let high ← if comma then takeChars Char.isDigit before.rest.length else pure low
  if low.isEmpty && !comma then
    set before
    return none
  if !(← accept '\x7d') then
    set before
    return none
  let least ← if low.isEmpty then pure 0 else countOf low
  let most ← if high.isEmpty then pure none else some <$> countOf high
  if most.any (· < least) then failAt .repeatOrder before.place
  return some ⟨least, most⟩

/-- The count that a mark of repetition asks for; nothing when a brace stands for itself. -/
def countFor (mark : Char) : Reader (Option Count) :=
  if mark = '?' then return some ⟨0, some 1⟩
  else if mark = '*' then return some ⟨0, none⟩
  else if mark = '+' then return some ⟨1, none⟩
  else bracedCount

/-- What a repetition repeats: a group that is neither remembered nor flagged is no more than its
items. -/
def repeatedItems : Item → List Item
  | .group none false items => items
  | i => [i]

/-- Repeats the last of the items read so far. `start` is the place of the mark. -/
def repeatLast (start : Nat) (c : Count) (items : List Item) : Reader (List Item) := do
  match items.getLast? with
  | none | some (.anchor _) => failAt .nothingToRepeat start
  | some (.repeated _ _ _ _) => failAt .multipleRepeat start
  | some i =>
    let possessive ← if ← accept '?' then pure false else accept '+'
    return items.dropLast ++ [.repeated c.least c.most possessive (repeatedItems i)]

end Grader.Pattern.Reader
