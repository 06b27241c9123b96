import Grader.Decimal.Read
import Grader.Pattern.Item
import Grader.Pattern.Reader

/-!
Escapes of patterns: characters by name or number, categories, anchors and references to groups.
-/

namespace Grader.Pattern.Reader

def valueIn (base : Nat) (ds : List Char) : Nat :=
  ds.foldl (fun n c =>
    base * n + (if c.isDigit then c.toNat - 48 else if c.toNat < 97 then c.toNat - 55
      else c.toNat - 87)) 0

/-- Whether the character is a hexadecimal digit. -/
def isHex (c : Char) : Bool :=
  c.isDigit || ('a' ≤ c && c ≤ 'f') || ('A' ≤ c && c ≤ 'F')

def isOctal (c : Char) : Bool := '0' ≤ c && c ≤ '7'

/-- Characters with a letter of their own. -/
def control? (c : Char) : Option Char :=
  if c = 'a' then some '\x07' else if c = 'b' then some '\x08' else if c = 'f' then some '\x0c'
  else if c = 'n' then some '\n' else if c = 'r' then some '\r' else if c = 't' then some '\t'
  else if c = 'v' then some '\x0b' else if c = '\\' then some '\\' else none

def category? (c : Char) : Option Category :=
  if c = 'd' then some .digit else if c = 'D' then some .nonDigit
  else if c = 's' then some .space else if c = 'S' then some .nonSpace
  else if c = 'w' then some .word else if c = 'W' then some .nonWord else none

def anchor? (c : Char) : Option Anchor :=
  if c = 'A' then some .textStart else if c = 'Z' then some .textEnd
  else if c = 'b' then some .boundary else if c = 'B' then some .nonBoundary else none

/-- A character by the number that a count of hexadecimal digits gives. -/
def byNumber (mark : Char) (count : Nat) : Reader Char := do
  let ds ← takeChars isHex count
  let escape := '\\' :: mark :: ds
  if ds.length ≠ count then fail (.incompleteEscape (String.ofList escape)) escape.length
  let n := valueIn 16 ds
  if n > 0x10FFFF then fail (.badEscape (String.ofList escape)) escape.length
  return if n.isValidChar then Char.ofNat n else '\uFFFD'

def byName : Reader Char := do
  if !(← accept '\x7b') then fail (.missing "\x7b")
  let n ← name '\x7d' "character name"
  fail (.unknownCharacter n) (n.length + 4)

/-- A character by its number or name, if the letter asks for one. -/
def character? (c : Char) : Reader (Option Char) := do
  if c = 'x' then return some (← byNumber c 2)
  else if c = 'u' then return some (← byNumber c 4)
  else if c = 'U' then return some (← byNumber c 8)
  else if c = 'N' then return some (← byName)
  else return none

def ofOctal (ds : List Char) : Reader Char := do
  let escape := '\\' :: ds
  if valueIn 8 ds > 255 then fail (.octalEscape (String.ofList escape)) escape.length
  return Char.ofNat (valueIn 8 ds)

/-- An escaped character that stands for itself, which letters and digits do not. -/
def itself (c : Char) : Reader Char :=
  if c.isAlpha || c.isDigit then fail (.badEscape (String.ofList ['\\', c])) 2 else return c

def classEscape (c : Char) : Reader Member := do
  match control? c, category? c with
  | some d, _ => return .literal d
  | none, some k => return .category k
  | none, none =>
    match ← character? c with
    | some d => return .literal d
    | none =>
      if isOctal c then return .literal (← ofOctal (c :: (← takeChars isOctal 2)))
      else return .literal (← itself c)

def reference (ds : List Char) : Reader Item := do
  let number := valueIn 10 ds
  if 0 < number ∧ number ≤ (← get).groups then
    if !(← isClosed number) then fail .openGroup (ds.length + 1)
    checkBehind number
    return .reference number
  else fail (.unknownGroup number) ds.length

/-- An escape that begins with a digit other than zero: three octal digits are a character, and
anything else refers to a group. -/
def numbered (c : Char) : Reader Item := do
  match ← takeChars Char.isDigit 1 with
  | [d] =>
    if isOctal c && isOctal d then
      match ← takeChars isOctal 1 with
      | [e] => return .literal (← ofOctal [c, d, e])
      | _ => reference [c, d]
    else reference [c, d]
  | _ => reference [c]

def escape (c : Char) : Reader Item := do
  match anchor? c, category? c, control? c with
  | some a, _, _ => return .anchor a
  | none, some k, _ => return .oneOf false [.category k]
  | none, none, some d => return .literal d
  | none, none, none =>
    match ← character? c with
    | some d => return .literal d
    | none =>
      if c = '0' then
        return .literal (Char.ofNat (valueIn 8 (c :: (← takeChars isOctal 2))))
      else if c.isDigit then numbered c
      else return .literal (← itself c)

end Grader.Pattern.Reader
