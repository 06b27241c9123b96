import Grader.Text.Blank
import Grader.Text.Utf8
import Grader.Value.Text

/-!
Settings read leniently from values: numbers and truth values may be given as text, truth values
as numbers, and lists of names as a single name or as nothing. What cannot be read gives flaws,
each with the path of what is wrong.
-/

namespace Grader

/-- Something read from a value, or the flaws of the value. -/
abbrev Checked (α : Type) := Except (List Flaw) α

namespace Checked

def flawed {α : Type} (kind : String) : Checked α := .error [⟨[], kind, none⟩]

/-- The same with every flaw one step further down. -/
def under {α : Type} (step : String) (c : Checked α) : Checked α :=
  c.mapError fun fs => fs.map fun f => { f with path := step :: f.path }

/-- Applies a function to what is read; the flaws of both are collected. -/
def apply {α β : Type} (f : Checked (α → β)) (a : Checked α) : Checked β :=
  match f, a with
  | .ok g, .ok x => .ok (g x)
  | .ok _, .error ys => .error ys
  | .error xs, .ok _ => .error xs
  | .error xs, .error ys => .error (xs ++ ys)

/-- All values that are read, or the flaws of all that are not. -/
def all {α : Type} : List (Checked α) → Checked (List α)
  | [] => .ok []
  | c :: cs => apply (c.map fun x xs => x :: xs) (all cs)

/-- Whether a flaw comes before another or beside it: by path, then by kind. -/
def flawLe (a b : Flaw) : Bool := a.path < b.path || (a.path == b.path && a.kind ≤ b.kind)

def failure (fs : List Flaw) : Failure := .validation (fs.mergeSort flawLe)

end Checked

namespace Value

/-- The text that a value gives where text is read leniently: strings, and bytes in UTF-8. -/
def lenientText? : Value → Option (Option (List Char))
  | str s => some (some s.toList)
  | bytes bs => some (Text.Utf8.decode bs).toOption
  | _ => Option.none

/-- An integer as a natural number with a least value. -/
def atLeast (least : Nat) (n : Int) : Checked Nat :=
  if Int.ofNat least ≤ n then .ok n.toNat else .flawed "greater_than_equal"

/-- The integer that a floating point number is; it must be finite, without a fraction and within
64 bits. -/
def integerOfFloat (x : Float) : Checked Int :=
  if x.isNaN || x.isInf then .flawed "finite_number"
  else match Decimal.integral? x with
    | some n =>
      if -0x8000000000000000 < n ∧ n < 0x8000000000000000 then .ok n
      else .flawed "int_parsing_size"
    | Option.none => .flawed "int_from_float"

/-- The characters that the text of an integer may have. -/
def maxIntegerLength : Nat := 4300

def integerOfText (cs : List Char) : Checked Int :=
  if maxIntegerLength < cs.length then .flawed "int_parsing_size"
  else match Decimal.integer? cs with
    | some n => .ok n
    | Option.none => .flawed "int_parsing"

def readInteger (v : Value) : Checked Int :=
  match v with
  | bool b => .ok (if b then 1 else 0)
  | int n => .ok n
  | float x => integerOfFloat x
  | v =>
    match v.lenientText? with
    | some (some cs) => integerOfText (Text.trimSpace cs)
    | some Option.none => .flawed "int_parsing"
    | Option.none => .flawed "int_type"

/-- The natural number of a value, with a least value. -/
def readNatural (least : Nat) (v : Value) : Checked Nat := (readInteger v).bind (atLeast least)

def trueWords : List String := ["1", "on", "t", "true", "y", "yes"]

def falseWords : List String := ["0", "off", "f", "false", "n", "no"]

def truthOfInteger (n : Int) : Checked Bool :=
  if n = 0 then .ok false else if n = 1 then .ok true else .flawed "bool_parsing"

/-- The truth value of a word, in any case. -/
def truthOfWord (cs : List Char) : Checked Bool :=
  let word := String.ofList (cs.map Char.toLower)
  if trueWords.contains word then .ok true
  else if falseWords.contains word then .ok false
  else .flawed "bool_parsing"

def readTruth (v : Value) : Checked Bool :=
  match v with
  | bool b => .ok b
  | int n => truthOfInteger n
  | float x =>
    match integerOfFloat x with
    | .ok n => if n = 0 ∨ n = 1 then truthOfInteger n else .flawed "bool_type"
    | .error _ => .flawed "bool_type"
  | v =>
    match v.lenientText? with
    | some t => t.elim (.flawed "bool_parsing") truthOfWord
    | Option.none => .flawed "bool_type"

/-- The floating point number of a text. -/
def floatOfText (cs : List Char) : Option Float :=
  Decimal.float? (Text.trimSpace cs) <|>
    (Decimal.withoutUnderscores true cs).bind Decimal.float?

/-- The floating point number of a value. -/
def readFloat (v : Value) : Checked Float :=
  match v with
  | bool b => .ok (if b then 1.0 else 0.0)
  | int n => (Decimal.ofInt? n).elim (.flawed "float_type") .ok
  | float x => .ok x
  | v =>
    match v.lenientText? with
    | some t => (t.bind floatOfText).elim (.flawed "float_parsing") .ok
    | Option.none => .flawed "float_type"

/-- The text of a value that must be text. -/
def readText (v : Value) : Checked String :=
  match v.lenientText? with
  | some (some cs) => .ok (String.ofList cs)
  | some Option.none => .flawed "string_unicode"
  | Option.none => .flawed "string_type"

/-- The names among values, without blanks around them; what is empty or no text is left out. -/
def strippedNames (items : List Value) : List String :=
  items.filterMap fun v =>
    match v with
    | str s => let t := Text.strip s; if t = "" then Option.none else some t
    | _ => Option.none

/-- The names of a value: nothing, one name, or a sequence of names. The items of a set are taken
as they are. -/
def readNames (v : Value) : Checked (List String) :=
  match v with
  | none => .ok []
  | str s => .ok (strippedNames [str s])
  | list xs | tuple xs => .ok (strippedNames xs)
  | set xs => Checked.all (xs.mapIdx fun i x => Checked.under (toString i) (readText x))
  | _ => .flawed "tuple_type"

/-- How a key is shown in the path of a flaw. -/
def keyText : Value → String
  | str s => s
  | bool b => if b then "1" else "0"
  | v => v.quoted

/-- The flaws of keys that a mapping must not have. -/
def strayKeys (known : List String) (entries : List (Value × Value)) : List Flaw :=
  entries.filterMap fun e =>
    match e.1 with
    | str k => if known.contains k then Option.none else some ⟨[k], "extra_forbidden", Option.none⟩
    | k => some ⟨[k.keyText], "invalid_key", Option.none⟩

/-- Reads nothing; the keys of a mapping must be known. -/
def knownKeys (known : List String) (entries : List (Value × Value)) : Checked Unit :=
  let fs := strayKeys known entries
  if fs.isEmpty then .ok () else .error fs

/-- Reads the value of a key, which may be absent. -/
def field {α : Type} (entries : List (Value × Value)) (key : String) (read : Value → Checked α)
    (absent : α) : Checked α :=
  match lookup (str key) entries with
  | some v => Checked.under key (read v)
  | Option.none => .ok absent

end Value

end Grader
