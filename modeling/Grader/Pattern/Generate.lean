import Grader.Pattern.Read
import Grader.Random.Draw

/-!
Random texts that match a pattern. Characters and alternatives are drawn from what the pattern
offers, in the order in which it lists them, and repetitions draw their count first.
-/

namespace Grader.Pattern

/-- The characters from one to another. -/
def span (low high : Char) : List Char :=
  (List.range (high.toNat + 1 - low.toNat)).map fun i => Char.ofNat (low.toNat + i)

/-- The letters, lower case first. -/
def letters : List Char := span 'a' 'z' ++ span 'A' 'Z'

def digits : List Char := span '0' '9'

/-- Signs that can be printed and are neither letters nor digits. -/
def punctuation : List Char := span '!' '/' ++ span ':' '@' ++ span '[' '\x60' ++ span '\x7b' '~'

/-- White space. -/
def blanks : List Char := [' ', '\t', '\n', '\r', '\x0b', '\x0c']

/-- All characters that a pattern draws from when it names none. -/
def printable : List Char := digits ++ letters ++ punctuation ++ blanks

def Category.chars : Category → List Char
  | digit => digits
  | nonDigit => letters ++ punctuation
  | space => blanks
  | nonSpace => digits ++ letters ++ punctuation
  | word => letters ++ digits ++ ['_']
  | nonWord => punctuation.filter (· != '_') ++ blanks

def Member.chars : Member → List Char
  | literal c => [c]
  | range low high => span low high
  | category k => k.chars

def classChars (negated : Bool) (members : List Member) : List Char :=
  let cs := members.flatMap Member.chars
  if negated then printable.filter fun c => !cs.contains c else cs

/-- The most repetitions of an item whose count has no bound, or a higher one. -/
def repeatCap : Nat := 100

/-- A draw that remembers the texts of groups by their numbers. -/
abbrev Generator := StateT (List (Nat × List Char)) Draw

/-- A draw, made a number of times, with the texts joined. -/
def times (g : Generator (List Char)) : Nat → Generator (List Char)
  | 0 => return []
  | n + 1 => return (← g) ++ (← times g n)

/-- The failure of an item that cannot be drawn. -/
def unsupported (what : String) : Generator (List Char) := throw (.key what)

mutual

def generateItem : Item → Generator (List Char)
  | .literal c => return [c]
  | .notLiteral c => return [← Draw.choose (printable.filter (· != c))]
  | .any => return [← Draw.choose (printable.filter (· != '\n'))]
  | .oneOf negated members => return [← Draw.choose (classChars negated members)]
  | .anchor _ | .refused => return []
  | .group number _ items => do
    let text ← generate items
    match number with
    | none => return text
    | some n =>
      modify fun groups => (n, text) :: groups
      return text
  | .choice branches => do
    let g ← Draw.choose (generateEach branches)
    g
  | .repeated least most possessive items => do
    if possessive then unsupported "possessive_repeat"
    else
      let n ← Draw.between least (min (most.getD repeatCap) repeatCap)
      times (generate items) n.toNat
  | .required items => generate items
  | .reference n => do
    match (← get).lookup n with
    | some text => return text
    | none => throw ⟨"KeyError", toString n, []⟩
  | .conditional _ _ _ => unsupported "groupref_exists"
  | .atomic _ => unsupported "atomic_group"
  | .never => unsupported "failure"

/-- A text for items one after the other. -/
def generate : List Item → Generator (List Char)
  | [] => return []
  | i :: rest => return (← generateItem i) ++ (← generate rest)

/-- Texts for each of some alternatives, to be drawn. -/
def generateEach : List (List Item) → List (Generator (List Char))
  | [] => []
  | b :: rest => generate b :: generateEach rest

end

/-- A random text for a pattern that was read. -/
def drawItems (items : List Item) : Draw (List Char) := (·.1) <$> (generate items).run []

/-- A random text that matches a pattern, unless its text is refused. -/
def draw (text : List Char) : Draw (List Char) :=
  match read text with
  | .ok items => drawItems items
  | .error fault => throw (fault.failure text)

end Grader.Pattern
