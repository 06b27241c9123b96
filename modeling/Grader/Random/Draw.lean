import Grader.Decimal.Read
import Grader.Failure
import Grader.Random.Twister

/-!
Draws from a source of random numbers: integers below a bound, integers of a range, members of a
list and real numbers of the unit interval. A draw that fails keeps what it has drawn, so the
source goes on from there.
-/

namespace Grader

/-- Something drawn from a source of random numbers, unless the draw fails. -/
abbrev Draw := ExceptT Failure (StateM Twister)

namespace Draw

def word : StateM Twister UInt32 := Twister.word

/-- A number of the given count of bits: whole words from the lowest on, and the highest bits of a
last one. -/
def bits (count : Nat) : StateM Twister Nat := do
  if count ≤ 32 then return (← word).toNat >>> (32 - count)
  else
    let mut n := 0
    for i in List.range (count / 32) do
      n := n + (← word).toNat <<< (32 * i)
    let rest := count % 32
    if rest = 0 then return n
    else return n + ((← word).toNat >>> (32 - rest)) <<< (32 * (count / 32))

/-- The number of attempts at a number below a bound, each of which succeeds at least every other
time. -/
def attempts : Nat := 10000

/-- Draws numbers of the given count of bits until one is below the bound. -/
def belowWith {n : Nat} (h : 0 < n) (count : Nat) : Nat → StateM Twister (Fin n)
  | 0 => return ⟨0, h⟩
  | fuel + 1 => do
    let r ← bits count
    if hr : r < n then return ⟨r, hr⟩ else belowWith h count fuel

/-- A number below a positive bound. -/
def below (n : Nat) (h : 0 < n) : StateM Twister (Fin n) := belowWith h (n.log2 + 1) attempts

/-- A positive integer is a positive natural number. -/
theorem toNat_pos {n : Int} (h : 0 < n) : 0 < n.toNat := by omega

/-- A number below a bound, which must be positive. -/
def range (n : Int) : Draw Int :=
  if h : 0 < n then do
    let r ← below n.toNat (toNat_pos h)
    return Int.ofNat r.val
  else throw (.value "empty range for randrange()")

/-- The refusal of bounds with no number between them. -/
def emptyRange (low high : Int) : Failure :=
  .value s!"empty range for randrange() ({low}, {high + 1}, {high - low + 1})"

/-- A number between two bounds, both of them included. -/
def between (low high : Int) : Draw Int :=
  let width := high - low + 1
  if h : 0 < width then do
    let r ← below width.toNat (toNat_pos h)
    return low + (r.val : Int)
  else throw (emptyRange low high)

/-- A member of a list. -/
def choose {α : Type} (xs : List α) : Draw α :=
  if h : 0 < xs.length then do
    let r ← below xs.length h
    return xs[r]
  else throw .index

/-- A real number of the unit interval, a multiple of two to the power of minus 53. -/
def unit : Draw Float := do
  let a ← word
  let b ← word
  let n := (a >>> 5).toNat * 67108864 + (b >>> 6).toNat
  return n.toFloat / 9007199254740992.0

end Draw

end Grader
