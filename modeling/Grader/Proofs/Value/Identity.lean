import Grader.Value.Basic
import Mathlib

/-! Identity of values. Values that are equal may still differ, as one and truth do; `identical`
decides whether they are one and the same value. -/

namespace Grader.Value

mutual

def identical : Value → Value → Bool
  | none, none => true
  | bool a, bool b => a == b
  | int m, int n => m == n
  | float x, float y => decide (x = y)
  | str s, str t => s == t
  | bytes s, bytes t => s == t
  | list xs, list ys | tuple xs, tuple ys | set xs, set ys => identicalItems xs ys
  | dict xs, dict ys => identicalEntries xs ys
  | settings s, settings t => s == t
  | moment k s q, moment l t r => k == l && s == t && q == r
  | _, _ => false
termination_by structural v => v

def identicalItems : List Value → List Value → Bool
  | [], [] => true
  | x :: xs, y :: ys => identical x y && identicalItems xs ys
  | _, _ => false
termination_by structural xs => xs

def identicalEntries : List (Value × Value) → List (Value × Value) → Bool
  | [], [] => true
  | (k, v) :: xs, (l, w) :: ys => identical k l && identical v w && identicalEntries xs ys
  | _, _ => false
termination_by structural xs => xs

end

mutual

theorem identical_iff : (v w : Value) → (identical v w = true ↔ v = w)
  | none, w => by cases w <;> simp [identical]
  | bool a, w => by cases w <;> simp [identical]
  | int n, w => by cases w <;> simp [identical]
  | float x, w => by cases w <;> simp [identical]
  | str s, w => by cases w <;> simp [identical]
  | bytes s, w => by cases w <;> simp [identical]
  | list xs, w => by cases w <;> simp [identical, identicalItems_iff xs]
  | tuple xs, w => by cases w <;> simp [identical, identicalItems_iff xs]
  | dict xs, w => by cases w <;> simp [identical, identicalEntries_iff xs]
  | set xs, w => by cases w <;> simp [identical, identicalItems_iff xs]
  | settings s, w => by cases w <;> simp [identical]
  | moment k s q, w => by cases w <;> simp [identical, and_assoc]

theorem identicalItems_iff : (xs ys : List Value) → (identicalItems xs ys = true ↔ xs = ys)
  | [], ys => by cases ys <;> simp [identicalItems]
  | x :: xs, ys => by cases ys <;> simp [identicalItems, identical_iff x, identicalItems_iff xs]

theorem identicalEntries_iff :
    (xs ys : List (Value × Value)) → (identicalEntries xs ys = true ↔ xs = ys)
  | [], ys => by cases ys <;> simp [identicalEntries]
  | (k, v) :: xs, ys => by
    cases ys <;> simp [identicalEntries, identical_iff k, identical_iff v,
      identicalEntries_iff xs, Prod.ext_iff]

end

instance : DecidableEq Value := fun v w => decidable_of_iff (identical v w = true) (identical_iff v w)

end Grader.Value
