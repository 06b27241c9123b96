import Grader.Pattern.Generate
import Grader.Value.Basic

/-!
Random test data: texts, characters, truth values, numbers and lists of them.
-/

namespace Grader.Draw

/-- Random texts for patterns, joined. -/
def text : List String → Draw String
  | [] => return ""
  | p :: ps => do
    let first ← Pattern.draw p.toList
    return String.ofList first ++ (← text ps)

/-- The class of the letters of both cases. -/
def letterPattern : String := "[a-zA-Z]"

/-- A pattern, repeated a number of times between two bounds. -/
def repeatedPattern (pattern : String) (low high : Int) : String :=
  pattern ++ "\x7b" ++ toString low ++ "," ++ toString high ++ "\x7d"

def invalidRange (low high : Int) : Failure := .value s!"Invalid length range [{low}, {high}]"

/-- A text of letters with a length between two bounds. -/
def letterText (low high : Int) : Draw String :=
  if low < 0 ∨ high < low then throw (invalidRange low high)
  else text [repeatedPattern letterPattern low high]

/-- The first character of a text for a pattern. -/
def character (pattern : String) : Draw String := do
  match (← text [pattern]).toList with
  | c :: _ => return c.toString
  | [] => throw (.value ("Pattern " ++ Text.Quoted.text pattern ++ " generated an empty string"))

/-- A truth value. -/
def coin : Draw Bool := return (← unit) < 0.5

/-- The refusal of more than two bounds. -/
def tooManyBounds (call : String) (count : Nat) : Failure :=
  .type s!"{call}() takes at most 2 bounds ({count} given)"

/-- An integer: of 32 bits, below a bound, or from a bound on and below another. -/
def whole : List Int → Draw Int
  | [] => between (-2147483648) 2147483647
  | [high] => range high
  | [low, high] => do return low + (← range (high - low))
  | bounds => throw (tooManyBounds "i" bounds.length)

/-- A number as a floating point number. -/
def toFloat : Value.Numeral → Draw Float
  | .binary x => return x
  | .whole n =>
    match Decimal.ofInt? n with
    | some x => return x
    | none => throw ⟨"OverflowError", "int too large to convert to float", []⟩

def difference : Value.Numeral → Value.Numeral → Draw Value.Numeral
  | .whole m, .whole n => return .whole (m - n)
  | x, y => do return .binary ((← toFloat x) - (← toFloat y))

/-- A real number: of the unit interval, of that up to a bound, or between two bounds. -/
def real : List Value.Numeral → Draw Float
  | [] => unit
  | [high] => do
    let u ← unit
    return u * (← toFloat high)
  | [low, high] => do
    let u ← unit
    let width ← difference high low
    let product := u * (← toFloat width)
    return (← toFloat low) + product
  | bounds => throw (tooManyBounds "d" bounds.length)

/-- Draws `n` members one after the other. -/
def members {α : Type} (supplier : Draw α) : Nat → Draw (List α)
  | 0 => return []
  | n + 1 => do
    let x ← supplier
    return x :: (← members supplier n)

/-- A list of a length, drawn member by member. -/
def fixedList {α : Type} (length : Int) (supplier : Draw α) : Draw (List α) :=
  if length < 0 then throw (.value s!"List length must not be negative: {length}")
  else members supplier length.toNat

/-- A list of a length between two bounds, drawn member by member. -/
def list {α : Type} (low high : Int) (supplier : Draw α) : Draw (List α) := do
  if low < 0 ∨ high < low then throw (invalidRange low high)
  else fixedList (← whole [low, high + 1]) supplier

end Grader.Draw
