import Grader.Text.Blank
import Grader.Text.Lines
import Grader.Text.Utf8
import Grader.Yaml.Moment
import Grader.Yaml.Node

/-!
Documents as values. `Yaml.load` reads a text that holds at most one document. Untagged plain
scalars denote what their form says; the standard tags say what a node is; all others are refused.
-/

namespace Grader.Yaml

/-- The failure of a document that cannot be read. What its text says about the place and the cause
is left out. -/
def malformed : Failure := ⟨"YAMLError", "", []⟩

/-- The common start of the standard tags. -/
def standardPrefix : String := "tag:yaml.org,2002:"

def standard (name : String) : String := standardPrefix ++ name

/-- The tag that a scalar's form gives it. -/
def tagOf : Resolved → String
  | .truth => standard "bool"
  | .nothing => standard "null"
  | .integer => standard "int"
  | .float => standard "float"
  | .moment => standard "timestamp"
  | .merge => standard "merge"
  | .value => standard "value"
  | .text => standard "str"

def Node.tag : Node → String
  | .scalar (some t) _ _ => t
  | .scalar none text plain => if plain then tagOf (.ofText text) else standard "str"
  | .sequence t _ => t.getD (standard "seq")
  | .mapping t _ => t.getD (standard "map")

/-- The digits of a text in a base; `none` where there are none or one is too large. -/
def inBase? (base : Nat) (cs : List Char) : Option Nat :=
  if cs.isEmpty then none
  else cs.foldlM (fun n c =>
    match hexValue? c with
    | some d => if d < base then some (base * n + d) else none
    | none => none) 0

/-- The failure of a text that is no integer in a base. -/
def badInteger (base : Nat) (cs : List Char) : Failure :=
  .value s!"invalid literal for int() with base {base}: {Text.Quoted.text (String.ofList cs)}"

def digitsIn (base : Nat) (cs : List Char) : Except Failure Nat :=
  match inBase? base cs with
  | some n => .ok n
  | none => .error (badInteger base cs)

/-- The number of digits in base sixty, the first the highest. -/
def sixties (pieces : List (List Char)) : Except Failure Nat :=
  pieces.foldlM (fun n p => (digitsIn 10 p).map fun d => 60 * n + d) 0

def integerOf (text : List Char) : Except Failure Int :=
  let cs := text.filter (· != '_')
  let (negative, body) := Decimal.splitSign cs
  let magnitude : Except Failure Nat := match body with
    | ['0'] => .ok 0
    | '0' :: 'b' :: rest => digitsIn 2 rest
    | '0' :: 'x' :: rest => digitsIn 16 rest
    | '0' :: _ => digitsIn 8 body
    | [] => .error ⟨"IndexError", "string index out of range", []⟩
    | _ => if body.contains ':' then sixties (Resolved.colonPieces body) else digitsIn 10 body
  magnitude.map fun n => if negative then -Int.ofNat n else Int.ofNat n

/-- The floating point number of an unsigned text. -/
def magnitudeOf (cs : List Char) : Except Failure Float :=
  match Decimal.float? (Text.trimSpace cs) with
  | some x => .ok x
  | none =>
    .error (.value s!"could not convert string to float: {Text.Quoted.text (String.ofList cs)}")

/-- The floating point number of pieces in base sixty, the last the lowest, from a power of sixty
on. -/
def sixtieths (base : Float) : List (List Char) → Except Failure Float
  | [] => .ok 0.0
  | p :: rest => do
    let x ← magnitudeOf p
    let more ← sixtieths (base * 60.0) rest
    return more + x * base

/-- The floating point number of a text. -/
def floatOf (text : List Char) : Except Failure Float :=
  let (negative, body) := Decimal.splitSign ((text.filter (· != '_')).map Char.toLower)
  let magnitude : Except Failure Float :=
    if body == ".inf".toList then .ok (1.0 / 0.0)
    else if body == ".nan".toList then .ok (0.0 / 0.0)
    else if body.contains ':' then sixtieths 1.0 (Resolved.colonPieces body).reverse
    else magnitudeOf body
  magnitude.map fun x => if negative then -x else x

def truthOf (text : List Char) : Except Failure Bool :=
  let word := String.ofList (text.map Char.toLower)
  if ["yes", "true", "on"].contains word then .ok true
  else if ["no", "false", "off"].contains word then .ok false
  else .error (.key word)

/-- The value of a digit in base sixty-four. -/
def sixtyFourth? (c : Char) : Option Nat :=
  if c.isUpper then some (c.toNat - 65)
  else if c.isLower then some (c.toNat - 71)
  else if c.isDigit then some (c.toNat + 4)
  else if c == '+' then some 62
  else if c == '/' then some 63
  else none

/-- The bytes of digits in base sixty-four, four digits for three bytes. -/
def bytesOf : List Nat → Option (List UInt8)
  | [] => some []
  | [a, b] => some [(4 * a + b / 16).toUInt8]
  | [a, b, c] => some [(4 * a + b / 16).toUInt8, (16 * (b % 16) + c / 4).toUInt8]
  | a :: b :: c :: d :: rest =>
    (bytesOf rest).map fun bs =>
      (4 * a + b / 16).toUInt8 :: (16 * (b % 16) + c / 4).toUInt8 ::
        (64 * (c % 4) + d).toUInt8 :: bs
  | _ => none

/-- The digits of a text in base sixty-four, other characters left out. Padding that completes a
group of four ends the text; without it the last group must be complete. `count` is the number of
digits in the group at hand and `pads` that of its padding characters. -/
def sixtyFourths (count pads : Nat) : List Char → Option (List Nat)
  | [] => if count = 0 then some [] else none
  | c :: rest =>
    if c == '=' then
      if count < 2 then sixtyFourths count pads rest
      else if 4 ≤ count + pads + 1 then some []
      else sixtyFourths count (pads + 1) rest
    else match sixtyFourth? c with
      | some d => (sixtyFourths ((count + 1) % 4) 0 rest).map (d :: ·)
      | none => sixtyFourths count pads rest

/-- The bytes that a text in base sixty-four stands for. -/
def binaryOf (text : List Char) : Except Failure (List UInt8) :=
  if text.any fun c => 0x7F < c.toNat then .error malformed
  else match (sixtyFourths 0 0 text).bind bytesOf with
    | some bs => .ok bs
    | none => .error malformed

/-- The value of a scalar's text under a standard tag. -/
def scalarValue (tag : String) (text : List Char) : Except Failure Value :=
  if tag == standard "null" then .ok .none
  else if tag == standard "bool" then (truthOf text).map .bool
  else if tag == standard "int" then (integerOf text).map .int
  else if tag == standard "float" then (floatOf text).map .float
  else if tag == standard "str" then .ok (.str (String.ofList text))
  else if tag == standard "binary" then (binaryOf text).map .bytes
  else if tag == standard "timestamp" then
    match Resolved.momentParts text with
    | some m => Resolved.momentValue m
    | none =>
      .error ⟨"AttributeError", "'NoneType' object has no attribute 'groupdict'", []⟩
  else .error malformed

def isKey : Value → Bool
  | .list _ | .dict _ | .set _ => false
  | _ => true

/-- The text of a scalar, or of the scalar that a mapping names as its value. -/
def scalarText : Node → Except Failure (List Char)
  | .scalar _ text _ => .ok text
  | .mapping _ entries =>
    match entries.find? fun e => e.1.tag == standard "value" with
    | some (_, .scalar _ text _) => .ok text
    | _ => .error malformed
  | .sequence _ _ => .error malformed

/-- The entries of a mapping with those that it takes over from others put in front. A later
mapping in a sequence of them comes earlier. -/
def flatten : Nat → List (Node × Node) → Except Failure (List (Node × Node))
  | 0, _ => .error malformed
  | fuel + 1, entries => do
    let merged ← (entries.filter fun e => e.1.tag == standard "merge").mapM fun e =>
      match e.2 with
      | .mapping _ es => flatten fuel es
      | .sequence _ ns => do
        let groups ← ns.mapM fun n =>
          match n with
          | .mapping _ es => flatten fuel es
          | _ => .error malformed
        return groups.reverse.flatten
      | .scalar _ _ _ => .error malformed
    let own := (entries.filter fun e => e.1.tag != standard "merge").map fun e =>
      if e.1.tag == standard "value" then
        match e.1 with
        | .scalar _ text _ => (Node.scalar (some (standard "str")) text false, e.2)
        | _ => e
      else e
    return merged.flatten ++ own

/-- The single entry of a mapping in a sequence of pairs. -/
def pairOf : Node → Except Failure (Node × Node)
  | .mapping _ [e] => .ok e
  | _ => .error malformed

/-- The value of a node. -/
def construct : Nat → Node → Except Failure Value
  | 0, _ => .error malformed
  | fuel + 1, n => do
    let tag := n.tag
    if tag == standard "seq" then
      match n with
      | .sequence _ ns => (ns.mapM (construct fuel)).map .list
      | _ => .error malformed
    else if tag == standard "map" || tag == standard "set" then
      match n with
      | .mapping _ es =>
        let es ← flatten (fuel + 1) es
        let pairs ← es.mapM fun e => do
          let k ← construct fuel e.1
          if !isKey k then .error malformed
          let v ← construct fuel e.2
          return (k, v)
        let v := Value.dictOf pairs
        if tag == standard "map" then return v
        else (v.items?).map Value.setOf
      | _ => .error malformed
    else if tag == standard "omap" || tag == standard "pairs" then
      match n with
      | .sequence _ ns =>
        let pairs ← ns.mapM fun n => do
          let e ← pairOf n
          let k ← construct fuel e.1
          let v ← construct fuel e.2
          return Value.tuple [k, v]
        return .list pairs
      | _ => .error malformed
    else do
      let text ← scalarText n
      scalarValue tag text

/-- A bound for the depth of a text's nodes. -/
def depthBound (text : List Char) : Nat := text.length + 2

/-- The value of the document of a text, nothing for a text without one. -/
def load (text : List Char) : Except Failure Value :=
  let cs := Text.unixLines text
  match (tokens? cs).bind Node.ofTokens with
  | none => .error malformed
  | some none => .ok .none
  | some (some n) => construct (depthBound cs) n

end Grader.Yaml
