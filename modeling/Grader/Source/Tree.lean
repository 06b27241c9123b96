import Grader.Source.Label

/-!
Syntax trees. A node knows the field of its parent that holds it, what it is, where it starts if
it has a place of its own, and its children in the order of the fields. Operators and expression
contexts are symbols, which have no place, no children and no kind; the parser leaves them out.
`Tree.location` is the place by which siblings are ordered.
-/

namespace Grader.Source

/-- A place in a source text: a line from 1 and a byte offset in it from 0. -/
structure Location where
  line : Nat
  column : Nat
  deriving Repr, DecidableEq

namespace Location

/-- Whether `a` is `b` or an earlier place. -/
def le (a b : Location) : Bool := a.line < b.line || (a.line == b.line && a.column ≤ b.column)

def earlier (a b : Location) : Location := if a.le b then a else b

/-- The place of nodes that hold nothing with a place. -/
def nowhere : Location := ⟨0x40000000, 0⟩

end Location

inductive Tree where
  | node (field : Field) (label : Label) (start : Option Location) (children : List Tree)
  deriving Repr

namespace Tree

/-- The field of the parent that holds the node. -/
def field : Tree → Field
  | node f _ _ _ => f

/-- What the node is. -/
def label : Tree → Label
  | node _ l _ _ => l

/-- Where the node starts, if it has a place of its own. -/
def start : Tree → Option Location
  | node _ _ s _ => s

/-- The children, in the order of the fields. -/
def children : Tree → List Tree
  | node _ _ _ cs => cs

/-- The same tree, held by another field. -/
def inField (f : Field) : Tree → Tree
  | node _ l s cs => node f l s cs

def childrenAt (t : Tree) (f : Field) : List Tree := t.children.filter (·.field == f)

def child? (t : Tree) (f : Field) : Option Tree := t.children.find? (·.field == f)

mutual

/-- The earliest place in a tree, if anything in it has one. -/
def earliest? : Tree → Option Location
  | node _ _ s cs => Option.merge Location.earlier s (earliestAmong? cs)

def earliestAmong? : List Tree → Option Location
  | [] => none
  | t :: ts => Option.merge Location.earlier t.earliest? (earliestAmong? ts)

end

/-- The place by which a node is ordered among its siblings: its own, or else the earliest one
below it. -/
def location : Tree → Location
  | node _ _ (some l) _ => l
  | node _ _ none cs => (earliestAmong? cs).getD Location.nowhere

end Tree

/-- Inserts an item in front of the first one that does not lie before it. -/
def insertByLocation {α : Type} (x : Location × α) : List (Location × α) → List (Location × α)
  | [] => [x]
  | y :: ys => if x.1.le y.1 then x :: y :: ys else y :: insertByLocation x ys

/-- Sorts by place; items at one place keep their order. -/
def sortByLocation {α : Type} (xs : List (Location × α)) : List (Location × α) :=
  xs.foldr insertByLocation []

end Grader.Source
