import Grader.Text.Printable

/-!
Quoted text. A text is quoted with apostrophes unless it holds an apostrophe and no double quote;
the mark, the backslash and everything that is not printable are written as escapes.
-/

namespace Grader.Text.Quoted

/-- A lower case hexadecimal digit. -/
def hexChar (n : Nat) : Char := Char.ofNat (if n < 10 then 48 + n else 87 + n)

/-- The last `width` hexadecimal digits of a number. -/
def hex (width n : Nat) : List Char :=
  match width with
  | 0 => []
  | w + 1 => hex w (n / 16) ++ [hexChar (n % 16)]

def mark (cs : List Char) : Char :=
  if cs.contains '\'' && !cs.contains '"' then '"' else '\''

/-- One character as it stands between the marks. -/
def escape (m c : Char) : List Char :=
  if c = m || c = '\\' then ['\\', c]
  else if c = '\n' then ['\\', 'n']
  else if c = '\r' then ['\\', 'r']
  else if c = '\t' then ['\\', 't']
  else if isPrintable c then [c]
  else if c.toNat < 0x100 then '\\' :: 'x' :: hex 2 c.toNat
  else if c.toNat < 0x10000 then '\\' :: 'u' :: hex 4 c.toNat
  else '\\' :: 'U' :: hex 8 c.toNat

/-- The quoted form over characters. -/
def encode (cs : List Char) : List Char :=
  let m := mark cs
  m :: cs.flatMap (escape m) ++ [m]

def text (s : String) : String := String.ofList (encode s.toList)

/-- One byte as it stands between the marks. -/
def escapeByte (m : Char) (b : UInt8) : List Char :=
  if b.toNat < 0x80 then escape m (Char.ofNat b.toNat) else '\\' :: 'x' :: hex 2 b.toNat

/-- The quoted form of a sequence of bytes. -/
def bytes (bs : List UInt8) : String :=
  let m := mark (bs.map fun b => Char.ofNat b.toNat)
  String.ofList ('b' :: m :: bs.flatMap (escapeByte m) ++ [m])

/-- The quoted forms of several texts between brackets. -/
def list (items : List String) : String :=
  "[" ++ String.intercalate ", " (items.map text) ++ "]"

end Grader.Text.Quoted
