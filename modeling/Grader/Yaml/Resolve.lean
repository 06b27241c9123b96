import Grader.Decimal.Read
import Grader.Text.Dotted

/-!
What plain scalars denote: truth values, nothing, integers in several bases, floating point
numbers, points in time, and else text. `Resolved` says which, from the form of the text alone.
-/

namespace Grader.Yaml

/-- What a plain scalar denotes. -/
inductive Resolved where
  | truth | nothing | integer | float | moment | merge | value | text
  deriving Repr, DecidableEq

namespace Resolved

def truthWords : List String :=
  ["yes", "Yes", "YES", "no", "No", "NO", "true", "True", "TRUE", "false", "False", "FALSE", "on",
    "On", "ON", "off", "Off", "OFF"]

def nothingWords : List String := ["~", "null", "Null", "NULL", ""]

/-- Words for numbers that are not finite, without a sign. -/
def infinityWords : List String := [".inf", ".Inf", ".INF"]

def undefinedWords : List String := [".nan", ".NaN", ".NAN"]

/-- A text without its sign. -/
def unsigned (cs : List Char) : List Char := (Decimal.splitSign cs).2

def isDigits (cs : List Char) : Bool := cs.all fun c => c.isDigit || c == '_'

/-- Digits and underscores, the first a digit. -/
def startsWithDigit (cs : List Char) : Bool := (cs.head?.any Char.isDigit) && isDigits cs

/-- Digits and underscores, the first a digit other than zero. -/
def isPositive (cs : List Char) : Bool := startsWithDigit cs && cs.head? != some '0'

def colonPieces : List Char → List (List Char)
  | [] => [[]]
  | c :: rest =>
    if c = ':' then [] :: colonPieces rest
    else match colonPieces rest with
      | [] => [[c]]
      | first :: others => (c :: first) :: others

/-- One or two digits below sixty. -/
def isSixtieth : List Char → Bool
  | [a] => a.isDigit
  | [a, b] => '0' ≤ a && a ≤ '5' && b.isDigit
  | _ => false

/-- Whether a text is a number in base sixty: a number and one or more digits of that base. -/
def isSexagesimal (first : List Char → Bool) (cs : List Char) : Bool :=
  match colonPieces cs with
  | whole :: a :: rest => first whole && (a :: rest).all isSixtieth
  | _ => false

/-- Whether a text is an integer without its sign: binary, octal, decimal, hexadecimal or in base
sixty. -/
def isInteger (cs : List Char) : Bool :=
  match cs with
  | '0' :: 'b' :: rest => !rest.isEmpty && rest.all fun c => c == '0' || c == '1' || c == '_'
  | '0' :: 'x' :: rest =>
    !rest.isEmpty && rest.all fun c =>
      c.isDigit || ('a' ≤ c && c ≤ 'f') || ('A' ≤ c && c ≤ 'F') || c == '_'
  | ['0'] => true
  | '0' :: rest => rest.all fun c => ('0' ≤ c && c ≤ '7') || c == '_'
  | cs => isPositive cs || isSexagesimal isPositive cs

/-- Whether a text is an exponent with its mark and its sign, or nothing. -/
def isExponent : List Char → Bool
  | [] => true
  | e :: sign :: ds =>
    (e == 'e' || e == 'E') && (sign == '+' || sign == '-') && !ds.isEmpty && ds.all Char.isDigit
  | _ => false

/-- The digits behind a point, and the exponent behind them. -/
def isFraction (cs : List Char) : Bool :=
  isExponent (cs.dropWhile fun c => c.isDigit || c == '_')

/-- Whether a text is a floating point number; `signed` is the whole of it. -/
def isFloat (signed : List Char) : Bool :=
  let cs := unsigned signed
  match Decimal.cut (· == '.') cs with
  | ([], some fraction) =>
    (cs.length = signed.length && fraction.head?.any Char.isDigit && isFraction fraction) ||
      infinityWords.contains (String.ofList cs) || undefinedWords.contains (String.ofList signed)
  | (whole, some fraction) =>
    (startsWithDigit whole && isFraction fraction) ||
      (isSexagesimal startsWithDigit whole && isDigits fraction)
  | _ => false

/-- Splits so many digits off, at least `least` and at most `most`. -/
def digitRun (least most : Nat) (cs : List Char) : Option (List Char × List Char) :=
  let ds := (cs.take most).takeWhile Char.isDigit
  if least ≤ ds.length then some (ds, cs.drop ds.length) else none

/-- Splits a character off. -/
def expect (x : Char) : List Char → Option (List Char)
  | [] => none
  | c :: rest => if c == x then some rest else none

/-- The parts of a point in time, as they are written. -/
structure MomentParts where
  year : Nat
  month : Nat
  day : Nat
  /-- Hour, minute and second, where a time of day is written. -/
  time : Option (Nat × Nat × Nat) := none
  /-- The digits of the fraction of a second. -/
  fraction : List Char := []
  /-- The minutes by which the time is ahead of universal time. -/
  offset : Option Int := none
  deriving Repr

/-- The offset behind a time: nothing, a letter for none, or a sign with hours and minutes. -/
def offsetParts (cs : List Char) : Option (Option Int) := do
  let body := cs.dropWhile fun c => c == ' ' || c == '\t'
  match body with
  | [] => if cs.isEmpty then some none else none
  | ['Z'] => some (some 0)
  | sign :: rest =>
    if sign != '+' && sign != '-' then none
    let (hours, rest) ← digitRun 1 2 rest
    let minutes ← match rest with
      | [] => some 0
      | ':' :: rest => do
        let (ds, rest) ← digitRun 2 2 rest
        if rest.isEmpty then some (Decimal.digitsValue ds) else none
      | _ => none
    let total := Int.ofNat (60 * Decimal.digitsValue hours + minutes)
    some (some (if sign == '-' then -total else total))

/-- The time of day behind a date. -/
def timeParts (date : MomentParts) (cs : List Char) : Option MomentParts := do
  let cs ← match cs with
    | 'T' :: rest | 't' :: rest => some rest
    | c :: rest =>
      if c == ' ' || c == '\t' then some (rest.dropWhile fun x => x == ' ' || x == '\t') else none
    | [] => none
  let (hour, cs) ← digitRun 1 2 cs
  let (minute, cs) ← digitRun 2 2 (← expect ':' cs)
  let (second, cs) ← digitRun 2 2 (← expect ':' cs)
  let (fraction, cs) := match cs with
    | '.' :: rest => (rest.takeWhile Char.isDigit, rest.dropWhile Char.isDigit)
    | cs => ([], cs)
  let offset ← offsetParts cs
  return { date with
    time := some (Decimal.digitsValue hour, Decimal.digitsValue minute, Decimal.digitsValue second)
    fraction, offset }

/-- The parts of a point in time; a date alone has two digits for month and day. -/
def momentParts (cs : List Char) : Option MomentParts := do
  let (year, rest) ← digitRun 4 4 cs
  let (month, rest) ← digitRun 1 2 (← expect '-' rest)
  let (day, rest) ← digitRun 1 2 (← expect '-' rest)
  let date : MomentParts :=
    { year := Decimal.digitsValue year, month := Decimal.digitsValue month,
      day := Decimal.digitsValue day }
  if rest.isEmpty then
    if month.length = 2 && day.length = 2 then some date else none
  else timeParts date rest

/-- What a plain scalar denotes. -/
def ofText (cs : List Char) : Resolved :=
  let word := String.ofList cs
  if truthWords.contains word then .truth
  else if isFloat cs then .float
  else if isInteger (unsigned cs) then .integer
  else if word == "<<" then .merge
  else if nothingWords.contains word then .nothing
  else if (momentParts cs).isSome then .moment
  else if word == "=" then .value
  else .text

end Resolved

end Grader.Yaml
