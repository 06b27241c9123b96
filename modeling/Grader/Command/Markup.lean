import Grader.Failure
import Grader.Text.Blank

/-!
Marked-up text. Tags in square brackets style the text between them and do not show; a backslash
in front of a tag makes it plain text. Names of pictographs between colons are replaced by them.
-/

namespace Grader.Markup

def pictographs : List (String × String) :=
  [("smile", "😄"), ("100", "💯"), ("1234", "🔢")]

/-- The pictograph of a name in any case, which may ask for one of two forms of it. -/
def pictograph? (name : List Char) : Option String :=
  let found (cs : List Char) := pictographs.lookup (String.ofList (cs.map Char.toLower))
  let without (tail : String) : Option (List Char) :=
    if tail.toList.isSuffixOf name then some (name.take (name.length - tail.length)) else none
  match without "-emoji", without "-text" with
  | some n, _ => (found n).map (· ++ "\uFE0F")
  | none, some n => (found n).map (· ++ "\uFE0E")
  | none, none => found name

/-- The characters up to the next colon, if no blank comes before it, and what follows the colon. -/
def upToColon : List Char → Option (List Char × List Char)
  | [] => none
  | c :: rest =>
    if c = ':' then some ([], rest)
    else if Text.isBlank c then none
    else (upToColon rest).map fun (name, rest) => (c :: name, rest)

/-- Replaces names between colons by their pictographs, from left to right. `fuel` bounds the
number of steps. -/
def pictured : Nat → List Char → List Char
  | 0, cs => cs
  | _, [] => []
  | fuel + 1, c :: rest =>
    if c = ':' then
      match upToColon rest with
      | none => c :: pictured fuel rest
      | some (name, after) =>
        match pictograph? name with
        | some p => p.toList ++ pictured fuel after
        | none => ':' :: name ++ ':' :: pictured fuel after
    else c :: pictured fuel rest

/-- A piece of marked-up text: text as it is, or a tag at a place. -/
inductive Piece where
  | plain (text : List Char)
  | tag (place : Nat) (text : List Char)
  deriving Repr, DecidableEq

/-- Whether a tag may begin with the character. -/
def isTagStart (c : Char) : Bool := c.isLower || c == '#' || c == '/' || c == '@'

/-- The inside of a tag, the opening bracket of which was read, and what follows it. -/
def tagInside (cs : List Char) : Option (List Char × List Char) :=
  match cs with
  | [] => none
  | first :: _ =>
    if isTagStart first then
      let inside := cs.takeWhile fun c => c != ']' && c != '['
      match cs.drop inside.length with
      | ']' :: rest => some (inside, rest)
      | _ => none
    else none

/-- Removes the backslash in front of brackets that belong to no tag. -/
def unescaped : List Char → List Char
  | [] => []
  | '\\' :: '[' :: rest => '[' :: unescaped rest
  | c :: rest => c :: unescaped rest

/-- Puts text in front of pieces. -/
def consPlain (text : List Char) : List Piece → List Piece
  | .plain t :: rest => .plain (text ++ t) :: rest
  | pieces => if text.isEmpty then pieces else .plain text :: pieces

/-- The pieces of marked-up text. Half of the backslashes in front of a tag remain, and an odd one
makes the tag plain. `fuel` bounds the number of steps. -/
def pieces (place : Nat) : Nat → List Char → List Piece
  | 0, cs => [.plain cs]
  | _, [] => []
  | fuel + 1, c :: rest =>
    let slashes := ((c :: rest).takeWhile (· == '\\')).length
    match (c :: rest).drop slashes with
    | '[' :: after =>
      match tagInside after with
      | some (inside, behind) =>
        let next := place + slashes + inside.length + 2
        let kept := List.replicate (slashes / 2) '\\'
        let tag := '[' :: inside ++ [']']
        if slashes % 2 = 1 then
          .plain (kept ++ tag) :: pieces next fuel behind
        else .plain kept :: .tag (place + slashes) inside :: pieces next fuel behind
      | none => consPlain [c] (pieces (place + 1) fuel rest)
    | _ => consPlain [c] (pieces (place + 1) fuel rest)

/-- The failure of a closing tag that closes nothing. -/
def unopened (place : Nat) (inside : List Char) : Failure :=
  let tag := "closing tag '[" ++ String.ofList inside ++ s!"]' at position {place} "
  let named := String.ofList inside != "/"
  ⟨"MarkupError",
    tag ++ (if named then "doesn't match any open tag" else "has nothing to close"), []⟩

/-- The name of a tag, without its parameters. -/
def tagName (inside : List Char) : String :=
  Text.strip (String.ofList ((inside.takeWhile (· != '=')).map Char.toLower))

/-- Closes a tag: the innermost one, or the innermost one of a name. -/
def closed (name : String) (opened : List String) : Option (List String) :=
  if name = "" then opened.tail?
  else if opened.contains name then some (opened.erase name) else none

/-- The text that pieces show, given the tags that are open. -/
def shown (opened : List String) : List Piece → Except Failure (List Char)
  | [] => .ok []
  | .plain t :: rest =>
    let text := unescaped t
    (shown opened rest).map (pictured (text.length + 1) text ++ ·)
  | .tag place inside :: rest =>
    match inside with
    | '/' :: name =>
      match closed (tagName name) opened with
      | some opened => shown opened rest
      | none => .error (unopened place inside)
    | _ => shown (tagName inside :: opened) rest

/-- Whether the character controls a terminal and is never shown. -/
def isControl (c : Char) : Bool :=
  let n := c.toNat
  n == 7 || n == 8 || n == 11 || n == 12 || n == 13

/-- The text that marked-up text shows. -/
def render (s : String) : Except Failure String :=
  let cs := s.toList
  let text := if cs.contains '[' then shown [] (pieces 0 (cs.length + 1) cs)
    else .ok (pictured (cs.length + 1) cs)
  text.map fun cs => String.ofList (cs.filter fun c => !isControl c)

end Grader.Markup
