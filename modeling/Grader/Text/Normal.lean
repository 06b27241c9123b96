import Grader.Text.NormalTable

/-!
The compatibility normal form of identifiers: characters are decomposed, marks are put into
canonical order, and what can be composed is composed again. Two spellings of a name denote the
same name when their normal forms agree.
-/

namespace Grader.Text.Normal

/-- The canonical combining class, 0 for a starter. -/
def classOf (n : Nat) : Nat := (classes[n]?).getD 0

def hangulBase : Nat := 0xAC00

/-- Decomposes one code point; syllables of Hangul are decomposed by arithmetic. -/
def decompose (n : Nat) : List Nat :=
  if hangulBase ≤ n && n < hangulBase + 11172 then
    let s := n - hangulBase
    let tail := s % 28
    [0x1100 + s / 588, 0x1161 + s % 588 / 28] ++ (if tail = 0 then [] else [0x11A7 + tail])
  else (decompositions[n]?).getD [n]

/-- Inserts a mark behind all marks of its class or a lower one. -/
def insertMark (n : Nat) : List Nat → List Nat
  | [] => [n]
  | m :: rest => if classOf n < classOf m then n :: m :: rest else m :: insertMark n rest

/-- Puts each run of marks into the order of their classes; `marks` is the run in progress. -/
def order (marks : List Nat) : List Nat → List Nat
  | [] => marks
  | n :: rest =>
    if classOf n = 0 then marks ++ n :: order [] rest else order (insertMark n marks) rest

/-- What two code points compose to, if anything. -/
def pair? (first second : Nat) : Option Nat :=
  if 0x1100 ≤ first && first < 0x1113 && 0x1161 ≤ second && second < 0x1176 then
    some (hangulBase + ((first - 0x1100) * 21 + (second - 0x1161)) * 28)
  else if hangulBase ≤ first && first < hangulBase + 11172 && (first - hangulBase) % 28 = 0 &&
      0x11A8 ≤ second && second < 0x11C3 then
    some (first + (second - 0x11A7))
  else compositions[(first, second)]?

/-- Composes from a starter on; `kept` are the marks behind it that did not compose, last first,
and `height` is the class of the last of them. -/
def compose (starter height : Nat) (kept : List Nat) : List Nat → List Nat
  | [] => starter :: kept.reverse
  | n :: rest =>
    let k := classOf n
    match if kept.isEmpty || height < k then pair? starter n else none with
    | some joined => compose joined height kept rest
    | none =>
      if k = 0 then starter :: kept.reverse ++ compose n 0 [] rest
      else compose starter k (n :: kept) rest

/-- The compatibility normal form of an identifier. -/
def ofName (s : String) : String :=
  if s.toList.all (·.toNat < 0x80) then s
  else match order [] (s.toList.flatMap fun c => decompose c.toNat) with
    | [] => ""
    | first :: rest => String.ofList ((compose first 0 [] rest).map Char.ofNat)

end Grader.Text.Normal
