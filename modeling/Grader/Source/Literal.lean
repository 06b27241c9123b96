import Grader.Source.Node

/-!
Which expressions are immutable literals. A list or set display counts only where a call such as
`frozenset` or `tuple` freezes it.
-/

namespace Grader.Source

/-- Callables whose result is immutable. -/
def freezingCalls : List String := ["frozenset", "tuple", "bytes", "range"]

/-- Whether the callee among the children of a call is the plain name of a freezing callable. -/
def calleeFreezes : List Tree → Bool
  | [] => false
  | t :: ts =>
    if t.field = .func then
      match t.label with
      | .name id => freezingCalls.contains id
      | _ => false
    else calleeFreezes ts

mutual

/-- Whether the expression is an immutable literal; `frozen` admits list and set displays. -/
def isImmutableLiteral (frozen : Bool) : Tree → Bool
  | .node _ label _ children =>
    match label with
    | .constant _ => true
    | .unaryOp | .binOp | .tuple => allImmutable frozen children
    | .list | .set => frozen && allImmutable frozen children
    | .call => calleeFreezes children && argumentsImmutable children
    | _ => false

def allImmutable (frozen : Bool) : List Tree → Bool
  | [] => true
  | t :: ts => isImmutableLiteral frozen t && allImmutable frozen ts

/-- Whether a freezing call has positional arguments only, all of them immutable literals once
frozen; the callee itself does not count. -/
def argumentsImmutable : List Tree → Bool
  | [] => true
  | t :: ts =>
    (t.field = .func || (t.field = .args && isImmutableLiteral true t)) && argumentsImmutable ts

end

end Grader.Source
