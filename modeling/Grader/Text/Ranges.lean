/-!
Sets of code points, kept as sorted disjoint ranges. A table is written as text: hexadecimal
numbers and ranges `lo-hi`, separated by blanks. Membership is a binary search.
-/

namespace Grader.Text

/-- Sorted disjoint ranges of code points, both ends included. -/
structure Ranges where
  bounds : Array (Nat × Nat)

namespace Ranges

/-- The value of a hexadecimal digit, 0 for any other character. -/
def hexDigit (c : Char) : Nat :=
  if '0' ≤ c && c ≤ '9' then c.toNat - 48
  else if 'A' ≤ c && c ≤ 'F' then c.toNat - 55
  else if 'a' ≤ c && c ≤ 'f' then c.toNat - 87
  else 0

/-- What has been read of a written table: the finished ranges, the lower end of the range that
is being read, and the number in progress. -/
structure Reading where
  done : Array (Nat × Nat) := #[]
  lower : Option Nat := none
  number : Option Nat := none

/-- Finishes the range in progress, if there is one. -/
def Reading.close (r : Reading) : Reading :=
  match r.lower, r.number with
  | some lo, some hi => ⟨r.done.push (lo, hi), none, none⟩
  | none, some n => ⟨r.done.push (n, n), none, none⟩
  | _, none => ⟨r.done, none, none⟩

/-- Reads one character of a written table. -/
def Reading.step (r : Reading) (c : Char) : Reading :=
  if c = '-' then ⟨r.done, r.number, none⟩
  else if c = ' ' || c = '\n' then r.close
  else ⟨r.done, r.lower, some (16 * r.number.getD 0 + hexDigit c)⟩

/-- The set that a written table describes. -/
def ofText (s : String) : Ranges := ⟨(s.toList.foldl Reading.step ⟨#[], none, none⟩).close.done⟩

/-- Binary search among the ranges from `lo` up to but not including `hi`; `fuel` bounds the
number of halvings. -/
def search (a : Array (Nat × Nat)) (n : Nat) : Nat → Nat → Nat → Bool
  | 0, _, _ => false
  | fuel + 1, lo, hi =>
    if lo < hi then
      let mid := (lo + hi) / 2
      let (first, last) := a.getD mid (0, 0)
      if n < first then search a n fuel lo mid
      else if last < n then search a n fuel (mid + 1) hi
      else true
    else false

/-- Whether the code point lies in one of the ranges. -/
def contains (r : Ranges) (n : Nat) : Bool :=
  search r.bounds n (r.bounds.size.log2 + 2) 0 r.bounds.size

end Ranges

end Grader.Text
