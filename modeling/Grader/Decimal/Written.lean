import Grader.Decimal.Shortest

/-!
Floating point numbers as text. The digits are always the shortest that read back; a `Layout`
says where positional notation ends and how exponents and special values are spelt.
-/

namespace Grader.Decimal

/-- The decisions of one written form of floating point numbers. -/
structure Layout where
  /-- The least exponent of the leading digit that is written positionally. -/
  lowest : Int
  /-- The first exponent of the leading digit that is no longer written positionally. -/
  beyond : Int
  /-- The least number of digits of an exponent. -/
  exponentWidth : Nat
  /-- Whether a lone digit before an exponent is followed by `.0`. -/
  pointBeforeExponent : Bool
  infinity : String
  undefined : String

/-- Text of values: exponents from -4 to 15 are positional and exponents have two digits. -/
def plain : Layout := ⟨-4, 16, 2, false, "inf", "nan"⟩

/-- Numbers of a result record: exponents from -5 to 15 are positional, and what is not finite is
null. -/
def record : Layout := ⟨-5, 16, 1, false, "null", "null"⟩

/-- Numbers of a policy document: as text, with a point in every number. -/
def document : Layout := ⟨-4, 16, 2, true, ".inf", ".nan"⟩

/-- The decimal digits of a number, padded with zeros to a least width. -/
def padded (width n : Nat) : List Char :=
  let ds := Nat.toDigits 10 n
  List.replicate (width - ds.length) '0' ++ ds

/-- Writes digits whose leading one has the exponent `e`. -/
def Layout.place (l : Layout) (ds : List Char) (e : Int) : List Char :=
  if l.lowest ≤ e && e < l.beyond then
    if e < 0 then ['0', '.'] ++ List.replicate (-e - 1).toNat '0' ++ ds
    else
      let whole := ds.take (e.toNat + 1)
      let rest := ds.drop (e.toNat + 1)
      whole ++ List.replicate (e.toNat + 1 - whole.length) '0' ++ ['.'] ++
        (if rest = [] then ['0'] else rest)
  else
    let (first, rest) := (ds.take 1, ds.drop 1)
    let fraction :=
      if rest = [] then (if l.pointBeforeExponent then ['.', '0'] else []) else '.' :: rest
    first ++ fraction ++ ['e', if e < 0 then '-' else '+'] ++ padded l.exponentWidth e.natAbs

/-- The text of a floating point number. -/
def Layout.write (l : Layout) (x : Float) : String :=
  match shape x with
  | .undefined => l.undefined
  | .infinite negative =>
    if negative && l.infinity != "null" then "-" ++ l.infinity else l.infinity
  | .finite b =>
    let d := shortest b
    let ds := Nat.toDigits 10 d.digits
    let body := l.place ds (d.exponent + Int.ofNat (ds.length - 1))
    String.ofList (if b.negative then '-' :: body else body)

end Grader.Decimal
