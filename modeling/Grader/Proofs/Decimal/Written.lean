import Grader.Decimal.Written
import Mathlib

/-! The characters of written numbers. Whatever the layout is, a number is written with digits, a
point, signs and the mark of an exponent, unless it is infinite or undefined. -/

namespace Grader.Decimal

def isNumberChar (c : Char) : Bool := c.isDigit || c == '.' || c == 'e' || c == '+' || c == '-'

theorem all_toDigits (n : Nat) : (Nat.toDigits 10 n).all isNumberChar = true := by
  rw [List.all_eq_true]
  intro c hc
  have hdigit : c.isDigit = true := Nat.isDigit_of_mem_toDigits (b := 10) (by decide) le_rfl hc
  simp [isNumberChar, hdigit]

theorem isDigit_of_mem_toString (n : Int) :
    ∀ c ∈ (toString n).toList, c.isDigit = true ∨ c = '-' := by
  have hnat (m : Nat) (c : Char) (h : c ∈ m.repr.toList) : c.isDigit = true := by
    rw [Nat.toList_repr] at h
    exact Nat.isDigit_of_mem_toDigits (by decide) (by decide) h
  intro c hc
  cases n with
  | ofNat m => exact .inl (hnat m c hc)
  | negSucc m =>
    change c ∈ ("-" ++ (m + 1).repr).toList at hc
    rw [String.toList_append, List.mem_append] at hc
    rcases hc with hc | hc
    · exact .inr (List.mem_singleton.mp hc)
    · exact .inl (hnat (m + 1) c hc)

theorem all_toString (n : Int) : (toString n).toList.all isNumberChar = true := by
  rw [List.all_eq_true]
  intro c hc
  rcases isDigit_of_mem_toString n c hc with hdigit | rfl
  · simp [isNumberChar, hdigit]
  · rfl

theorem all_place (l : Layout) {ds : List Char} (h : ds.all isNumberChar = true) (e : Int) :
    (l.place ds e).all isNumberChar = true := by
  have hzeros (n : Nat) : (List.replicate n '0').all isNumberChar = true := by
    rw [List.all_eq_true]
    intro c hc
    rw [List.eq_of_mem_replicate hc]
    rfl
  have hpadded (width n : Nat) : (padded width n).all isNumberChar = true := by
    unfold padded
    rw [List.all_append, hzeros, all_toDigits, Bool.and_self]
  have htake (n : Nat) : (ds.take n).all isNumberChar = true :=
    List.all_eq_true.mpr fun c hc => List.all_eq_true.mp h c (List.mem_of_mem_take hc)
  have hdrop (n : Nat) : (ds.drop n).all isNumberChar = true :=
    List.all_eq_true.mpr fun c hc => List.all_eq_true.mp h c (List.mem_of_mem_drop hc)
  have hminus : isNumberChar '-' = true := rfl
  have hplus : isNumberChar '+' = true := rfl
  have hpoint : isNumberChar '.' = true := rfl
  have hzero : isNumberChar '0' = true := rfl
  have hmark : isNumberChar 'e' = true := rfl
  unfold Layout.place
  simp only
  split_ifs <;>
    simp only [List.all_append, List.all_cons, List.all_nil, hzeros, hpadded, htake, hdrop, hminus,
      hplus, hpoint, hzero, hmark, h, Bool.and_self]

/-- A number is written with the characters of numbers, or with a word of the layout for it. -/
theorem mem_write {l : Layout} {x : Float} {c : Char} (hc : c ∈ (l.write x).toList) :
    isNumberChar c = true ∨ c ∈ l.infinity.toList ∨ c ∈ l.undefined.toList := by
  unfold Layout.write at hc
  split at hc
  · exact .inr (.inr hc)
  · split at hc
    · rw [String.toList_append, List.mem_append] at hc
      rcases hc with hc | hc
      · rw [List.mem_singleton.mp hc]
        exact .inl rfl
      · exact .inr (.inl hc)
    · exact .inr (.inl hc)
  · rename_i b _
    have hplace := List.all_eq_true.mp (all_place l (all_toDigits (shortest b).digits)
      ((shortest b).exponent + Int.ofNat ((Nat.toDigits 10 (shortest b).digits).length - 1)))
    simp only [String.toList_ofList] at hc
    split at hc
    · rcases List.mem_cons.mp hc with rfl | hc
      · exact .inl rfl
      · exact .inl (hplace c hc)
    · exact .inl (hplace c hc)

end Grader.Decimal
