/-!
Patterns: what a regular expression says, as items one after the other.
-/

namespace Grader.Pattern

/-- Kinds of characters that a class may name. -/
inductive Category where
  | digit | nonDigit | space | nonSpace | word | nonWord
  deriving Repr, DecidableEq

/-- What a class of characters lists. -/
inductive Member where
  | literal (c : Char)
  | range (low high : Char)
  | category (k : Category)
  deriving Repr, DecidableEq

/-- Places in a text that match nothing by themselves. -/
inductive Anchor where
  | beginning | ending | textStart | textEnd | boundary | nonBoundary
  deriving Repr, DecidableEq

inductive Item where
  | literal (c : Char)
  | notLiteral (c : Char)
  | any
  | oneOf (negated : Bool) (members : List Member)
  | anchor (a : Anchor)
  /-- A group, numbered if it is remembered; `flagged` if options are set in it alone. -/
  | group (number : Option Nat) (flagged : Bool) (items : List Item)
  | choice (branches : List (List Item))
  | repeated (least : Nat) (most : Option Nat) (possessive : Bool) (items : List Item)
  /-- What has to follow or to precede. -/
  | required (items : List Item)
  /-- What must not follow or precede. -/
  | refused
  | reference (number : Nat)
  | conditional (number : Nat) (yes no : List Item)
  | atomic (items : List Item)
  /-- What never matches. -/
  | never
  deriving Repr

namespace Item

/-- Whether two items without items inside are the same. Items that hold others are each their
own. -/
def sameLeaf : Item → Item → Bool
  | literal c, literal d => c == d
  | notLiteral c, notLiteral d => c == d
  | any, any => true
  | oneOf n ms, oneOf m ns => n == m && ms == ns
  | anchor a, anchor b => a == b
  | reference m, reference n => m == n
  | never, never => true
  | _, _ => false

/-- A group that is neither remembered nor flagged is no more than its items. -/
def inlined : List Item → List Item
  | [] => []
  | group none false items :: rest => items ++ inlined rest
  | i :: rest => i :: inlined rest

/-- The members that an item of a branch adds to a class, when it is a character or a class of
characters that is not negated. -/
def members? : List Item → Option (List Member)
  | [literal c] => some [.literal c]
  | [oneOf false ms] => some ms
  | _ => none

/-- Takes the items that all branches begin with out of them. `fuel` bounds their number. -/
def factored : Nat → List (List Item) → List Item × List (List Item)
  | 0, branches => ([], branches)
  | fuel + 1, branches =>
    match branches.head?.bind List.head? with
    | none => ([], branches)
    | some i =>
      if branches.all fun b => (b.head?.map i.sameLeaf).getD false then
        let (first, rest) := factored fuel (branches.map List.tail)
        (i :: first, rest)
      else ([], branches)

/-- What a list of alternatives comes to: common items first, and then a class if every alternative
is one character or one class. -/
def alternatives (branches : List (List Item)) : List Item :=
  match branches with
  | [b] => b
  | _ =>
    let (first, rest) := factored (branches.foldr (fun b n => b.length + n) 1) branches
    match rest.mapM members? with
    | some ms => first ++ [oneOf false ms.flatten.eraseDups]
    | none => first ++ [choice rest]

/-- A class of characters; one that lists a single character is that character. -/
def ofClass (negated : Bool) (members : List Member) : Item :=
  match members.eraseDups, negated with
  | [.literal c], false => literal c
  | [.literal c], true => notLiteral c
  | ms, n => oneOf n ms

end Item

end Grader.Pattern
