import Grader.Decimal.Shortest

/-!
Numbers read from text, and integers as floating point numbers.
-/

namespace Grader.Decimal

/-- Digits with single underscores between them, as the digits alone; `none` when an underscore
stands anywhere else. `fresh` says that a digit must come next. -/
def dropUnderscores (fresh : Bool) : List Char → Option (List Char)
  | [] => if fresh then none else some []
  | c :: rest =>
    if c.isDigit then (dropUnderscores false rest).map (c :: ·)
    else if c = '_' && !fresh then dropUnderscores true rest
    else none

/-- A text without its underscores, which must be single and may not stand at its ends. -/
def withoutUnderscores (fresh : Bool) : List Char → Option (List Char)
  | [] => if fresh then none else some []
  | c :: rest =>
    if c ≠ '_' then (withoutUnderscores false rest).map (c :: ·)
    else if fresh then none
    else withoutUnderscores true rest

def digitsValue (cs : List Char) : Nat := cs.foldl (fun n c => 10 * n + (c.toNat - 48)) 0

/-- The value of a non-empty run of digits. -/
def digits? (cs : List Char) : Option Nat :=
  if cs ≠ [] && cs.all Char.isDigit then some (digitsValue cs) else none

def splitSign : List Char → Bool × List Char
  | '-' :: rest => (true, rest)
  | '+' :: rest => (false, rest)
  | cs => (false, cs)

/-- The characters before and after the first one that satisfies `p`; `none` when none does. -/
def cut (p : Char → Bool) (cs : List Char) : List Char × Option (List Char) :=
  match cs.dropWhile (fun c => !p c) with
  | [] => (cs, none)
  | _ :: rest => (cs.takeWhile (fun c => !p c), some rest)

/-- Whether the digits behind a point, if there is one, are one or more zeros. -/
def isZeroFraction : Option (List Char) → Bool
  | none => true
  | some ds => ds ≠ [] && ds.all (· == '0')

/-- An integer: a sign, digits with single underscores between them, and possibly a point and
zeros. -/
def integer? (cs : List Char) : Option Int :=
  let (negative, body) := splitSign cs
  let (whole, fraction) := cut (· == '.') body
  if isZeroFraction fraction then
    (dropUnderscores true whole).map fun ds =>
      if negative then -Int.ofNat (digitsValue ds) else Int.ofNat (digitsValue ds)
  else none

/-- `digits * 10 ^ exponent`, correctly rounded. Far outside the range it is infinite or zero
without forming the power. -/
def toFloat (digits : Nat) (exponent : Int) : Float :=
  let magnitude := Int.ofNat (Nat.toDigits 10 digits).length + exponent
  if digits = 0 then 0.0
  else if magnitude > 400 then 1.0 / 0.0
  else if magnitude < -400 then 0.0
  else Float.ofScientific digits (exponent < 0) exponent.natAbs

/-- An integer as the nearest floating point number, `none` when it is out of range. -/
def ofInt? (n : Int) : Option Float :=
  let x := toFloat n.natAbs 0
  if x.isInf then none else some (if n < 0 then -x else x)

/-- The exponent behind its mark; zero when there is none. -/
def exponent? : Option (List Char) → Option Int
  | none => some 0
  | some p =>
    let (negative, ds) := splitSign p
    (digits? ds).map fun n => if negative then -Int.ofNat n else Int.ofNat n

/-- An unsigned decimal in positional or exponent notation. -/
def unsigned? (cs : List Char) : Option Float :=
  let (mantissa, power) := cut (fun c => c == 'e' || c == 'E') cs
  let (whole, fraction) := cut (· == '.') mantissa
  let ds := whole ++ fraction.getD []
  match digits? ds, exponent? power with
  | some n, some e => some (toFloat n (e - Int.ofNat (fraction.getD []).length))
  | _, _ => none

/-- A floating point number: decimal notation, `inf`, `infinity` or `nan` in any case, with or
without a sign. -/
def float? (cs : List Char) : Option Float :=
  let (negative, body) := splitSign cs
  let word := String.ofList (body.map Char.toLower)
  let value :=
    if word = "inf" || word = "infinity" then some (1.0 / 0.0)
    else if word = "nan" then some (0.0 / 0.0)
    else unsigned? body
  value.map fun x => if negative then -x else x

/-- The integer that a floating point number is, if it is one. -/
def integral? (x : Float) : Option Int :=
  match shape x with
  | .finite b =>
    let magnitude :=
      if 0 ≤ b.exponent then some (b.mantissa * Nat.pow 2 b.exponent.toNat)
      else
        let d := Nat.pow 2 (-b.exponent).toNat
        if b.mantissa % d = 0 then some (b.mantissa / d) else none
    magnitude.map fun n => if b.negative then -Int.ofNat n else Int.ofNat n
  | _ => none

end Grader.Decimal
