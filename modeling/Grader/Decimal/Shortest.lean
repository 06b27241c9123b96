/-!
Shortest decimals of binary floating point numbers. A finite number is `m * 2 ^ e`; the reals that
round to it form an interval around it. `shortest` gives the digits and the exponent of the decimal
with the fewest digits in that interval, and of those the nearest.
-/

namespace Grader.Decimal

/-- The parts of a binary floating point number: `mantissa * 2 ^ exponent` up to the sign. -/
structure Binary where
  negative : Bool
  mantissa : Nat
  exponent : Int
  deriving Repr, DecidableEq

/-- The three shapes of a floating point number. -/
inductive Shape where
  | finite (b : Binary)
  | infinite (negative : Bool)
  | undefined
  deriving Repr, DecidableEq

/-- The leading bit of a mantissa, which is not stored. -/
def implicitBit : Nat := 0x10000000000000

/-- Decodes the 64 bits of a floating point number. -/
def shapeOfBits (bits : Nat) : Shape :=
  let negative := bits / 0x8000000000000000 % 2 = 1
  let biased := bits / implicitBit % 0x800
  let fraction := bits % implicitBit
  if biased = 2047 then
    if fraction = 0 then .infinite negative else .undefined
  else if biased = 0 then .finite ⟨negative, fraction, -1074⟩
  else .finite ⟨negative, fraction + implicitBit, Int.ofNat biased - 1075⟩

/-- The shape of a floating point number. -/
def shape (x : Float) : Shape := shapeOfBits x.toBits.toNat

/-- A decimal `digits * 10 ^ exponent`. -/
structure Digits where
  digits : Nat
  exponent : Int
  deriving Repr, DecidableEq

/-- The factor `2 ^ b * 10 ^ -k` as a quotient of natural numbers. -/
def scale (b k : Int) : Nat × Nat :=
  (Nat.pow 2 b.toNat * Nat.pow 10 (-k).toNat, Nat.pow 2 (-b).toNat * Nat.pow 10 k.toNat)

/-- The interval of a number in quarters of its last place: lower end, number, upper end. The gap
below a power of two is half the gap above it. -/
def quarters (b : Binary) : Nat × Nat × Nat :=
  let m := 4 * b.mantissa
  (if b.mantissa = implicitBit && b.exponent != -1074 then m - 1 else m - 2, m, m + 2)

/-- Whether the grid point `c * 10 ^ k` rounds to the number; the ends belong to the interval
exactly when the mantissa is even. -/
def roundsTo (b : Binary) (k : Int) (c : Nat) : Bool :=
  let (lo, _, hi) := quarters b
  let (num, den) := scale (b.exponent - 2) k
  if b.mantissa % 2 = 0 then lo * num ≤ c * den && c * den ≤ hi * num
  else lo * num < c * den && c * den < hi * num

/-- The nearest point of the grid `10 ^ k` that rounds to the number, if one does; of two equally
near ones the even one. -/
def onGrid (b : Binary) (k : Int) : Option Nat :=
  let (_, v, _) := quarters b
  let (num, den) := scale (b.exponent - 2) k
  let below := v * num / den
  match roundsTo b k below, roundsTo b k (below + 1) with
  | true, true =>
    let up := (below + 1) * den - v * num
    let down := v * num - below * den
    some (if down < up || (down = up && below % 2 = 0) then below else below + 1)
  | true, false => some below
  | false, true => some (below + 1)
  | false, false => none

/-- Tries finer and finer grids, from `10 ^ k` downwards. -/
def firstGrid (b : Binary) : Nat → Int → Digits
  | 0, k => ⟨0, k⟩
  | fuel + 1, k =>
    match onGrid b k with
    | some c => ⟨c, k⟩
    | none => firstGrid b fuel (k - 1)

/-- A decimal exponent that is at least that of the leading digit. -/
def leadingExponent (b : Binary) : Int :=
  Int.fdiv ((Int.ofNat b.mantissa.log2 + b.exponent) * 30103) 100000 + 1

/-- The decimal with the fewest digits that rounds to the number, and of those the nearest. -/
def shortest (b : Binary) : Digits :=
  if b.mantissa = 0 then ⟨0, 0⟩ else firstGrid b 20 (leadingExponent b)

end Grader.Decimal
