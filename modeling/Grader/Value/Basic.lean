import Grader.Decimal.Read
import Grader.Failure
import Grader.Policy.Settings

/-!
Values: what test data, policy documents and the outcomes of checks are made of. Mappings keep the
order of their entries; equality crosses the numeric types, so `1`, `1.0` and truth are one key.
-/

namespace Grader

inductive Value where
  | none
  | bool (b : Bool)
  | int (n : Int)
  | float (x : Float)
  | str (s : String)
  | bytes (bs : List UInt8)
  | list (items : List Value)
  | tuple (items : List Value)
  | dict (entries : List (Value × Value))
  | set (items : List Value)
  | settings (s : RuleSettings)
  /-- A point in time: the name of its type, its text and its quoted form. -/
  | moment (type text quoted : String)

namespace Value

instance : Inhabited Value := ⟨none⟩

/-- A number as an integer or as a floating point number. -/
inductive Numeral where
  | whole (n : Int)
  | binary (x : Float)

/-- The number that a value is; truth is one and falsehood zero. -/
def numeral? : Value → Option Numeral
  | bool b => some (.whole (if b then 1 else 0))
  | int n => some (.whole n)
  | float x => some (.binary x)
  | _ => Option.none

/-- Whether two numbers are equal as real numbers. -/
def Numeral.same : Numeral → Numeral → Bool
  | .whole m, .whole n => m == n
  | .binary x, .binary y => x == y
  | .whole n, .binary x => Decimal.integral? x == some n
  | .binary x, .whole n => Decimal.integral? x == some n

/-- Whether two values without components are equal. -/
def sameLeaf (v w : Value) : Bool :=
  match v.numeral?, w.numeral? with
  | some m, some n => m.same n
  | Option.none, Option.none =>
    match v, w with
    | none, none => true
    | str s, str t => s == t
    | bytes s, bytes t => s == t
    | settings s, settings t => s == t
    | moment k s _, moment l t _ => k == l && s == t
    | _, _ => false
  | _, _ => false

mutual

/-- Whether two values are equal. Sequences are compared item by item and never equal one of the
other kind; the entries of mappings may come in any order. -/
def same : Value → Value → Bool
  | list xs, w => match w with
    | list ys => sameItems xs ys
    | _ => false
  | tuple xs, w => match w with
    | tuple ys => sameItems xs ys
    | _ => false
  | set xs, w => match w with
    | set ys => xs.length == ys.length && allAmong xs ys
    | _ => false
  | dict xs, w => match w with
    | dict ys => xs.length == ys.length && entriesAmong xs ys
    | _ => false
  | v, w => sameLeaf v w
termination_by structural v => v

/-- Whether two lists of values are equal item by item. -/
def sameItems : List Value → List Value → Bool
  | [], ys => ys.isEmpty
  | x :: xs, ys => match ys with
    | [] => false
    | y :: ys => same x y && sameItems xs ys
termination_by structural xs => xs

/-- Whether every value equals one of a list. -/
def allAmong : List Value → List Value → Bool
  | [], _ => true
  | x :: xs, ys => ys.any (same x) && allAmong xs ys
termination_by structural xs => xs

/-- Whether every entry equals one of a list. -/
def entriesAmong : List (Value × Value) → List (Value × Value) → Bool
  | [], _ => true
  | (k, v) :: rest, ys => ys.any (fun e => same k e.1 && same v e.2) && entriesAmong rest ys
termination_by structural xs => xs

end

instance : BEq Value := ⟨same⟩

/-- The value of a key. -/
def lookup (key : Value) (entries : List (Value × Value)) : Option Value :=
  (entries.find? fun e => key.same e.1).map (·.2)

/-- Sets the value of a key. A key that is there already keeps its place and its own form. -/
def insert (entries : List (Value × Value)) (key value : Value) : List (Value × Value) :=
  if (lookup key entries).isSome then
    entries.map fun e => if key.same e.1 then (e.1, value) else e
  else entries ++ [(key, value)]

/-- The mapping with the given entries, later ones overriding earlier ones. -/
def dictOf (entries : List (Value × Value)) : Value :=
  dict (entries.foldl (fun acc e => insert acc e.1 e.2) [])

def setOf (items : List Value) : Value :=
  set (items.foldl (fun acc x => if acc.any (x.same ·) then acc else acc ++ [x]) [])

/-- Whether the value counts as true. -/
def truthy : Value → Bool
  | none => false
  | bool b => b
  | int n => n != 0
  | float x => !(x == 0.0)
  | str s => s != ""
  | bytes bs => !bs.isEmpty
  | list xs | tuple xs | set xs => !xs.isEmpty
  | dict es => !es.isEmpty
  | settings _ | moment _ _ _ => true

def typeName : Value → String
  | none => "NoneType"
  | bool _ => "bool"
  | int _ => "int"
  | float _ => "float"
  | str _ => "str"
  | bytes _ => "bytes"
  | list _ => "list"
  | tuple _ => "tuple"
  | dict _ => "dict"
  | set _ => "set"
  | settings _ => "RuleSettings"
  | moment type _ _ => type

/-- The name of the type with that of the module it lives in, where that is shown. -/
def qualifiedTypeName : Value → String
  | moment type _ _ => "datetime." ++ type
  | v => v.typeName

/-- How the type of the value shows itself. -/
def typeText (v : Value) : String := "<class " ++ Text.Quoted.text v.qualifiedTypeName ++ ">"

def isText : Value → Bool
  | str _ => true
  | _ => false

def ofSettings (s : RuleSettings) : List (String × Value) :=
  [("enabled", bool s.enabled), ("penalty", int s.penalty),
    ("per_occurrence", bool s.perOccurrence)]

/-- The items that going through the value gives: characters, numbers, items, keys or named
settings. Values that hold nothing to go through are refused. -/
def items? : Value → Except Failure (List Value)
  | str s => .ok (s.toList.map fun c => str (String.singleton c))
  | bytes bs => .ok (bs.map fun b => int b.toNat)
  | list xs | tuple xs | set xs => .ok xs
  | dict es => .ok (es.map (·.1))
  | settings s => .ok ((ofSettings s).map fun e => tuple [str e.1, e.2])
  | v => .error (.type (Text.Quoted.text v.typeName ++ " object is not iterable"))

end Value

end Grader
