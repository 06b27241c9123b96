import Grader.Decimal.Limit
import Grader.Decimal.Written
import Grader.Value.Basic

/-!
Values as text. `Value.text` is the text of a value on its own and `Value.quoted` its form inside
others: strings are quoted there. `Value.shown` makes white space visible and sorts the entries of
mappings, and `Value.agrees` compares values by their text. A value that holds an integer with too
many digits has none of these forms, see `Value.written`.
-/

namespace Grader.Value

def braced (s : String) : String := "\x7b" ++ s ++ "\x7d"

/-- Items with commas between them. -/
def commas (items : List String) : String := String.intercalate ", " items

def truthText (b : Bool) : String := if b then "True" else "False"

/-- Settings as text, with a separator between the fields. -/
def settingsText (separator : String) (s : RuleSettings) : String :=
  String.intercalate separator
    ["enabled=" ++ truthText s.enabled, "penalty=" ++ toString s.penalty,
      "per_occurrence=" ++ truthText s.perOccurrence]

/-- Items of a tuple between parentheses; a single item is followed by a comma. -/
def tupleText : List String → String
  | [item] => "(" ++ item ++ ",)"
  | items => "(" ++ commas items ++ ")"

mutual

/-- The form of a value inside others. -/
def quoted : Value → String
  | none => "None"
  | bool b => truthText b
  | int n => toString n
  | float x => Decimal.plain.write x
  | str s => Text.Quoted.text s
  | bytes bs => Text.Quoted.bytes bs
  | list xs => "[" ++ commas (quotedItems xs) ++ "]"
  | tuple xs => tupleText (quotedItems xs)
  | dict es => braced (commas (quotedEntries es))
  | set xs => if xs.isEmpty then "set()" else braced (commas (quotedItems xs))
  | settings s => "RuleSettings(" ++ settingsText ", " s ++ ")"
  | moment _ _ q => q

def quotedItems : List Value → List String
  | [] => []
  | v :: vs => quoted v :: quotedItems vs

/-- The quoted forms of entries, key and value. -/
def quotedEntries : List (Value × Value) → List String
  | [] => []
  | (k, v) :: rest => (quoted k ++ ": " ++ quoted v) :: quotedEntries rest

end

def text : Value → String
  | str s => s
  | settings s => settingsText " " s
  | moment _ t _ => t
  | v => v.quoted

/-- Whether a pair of texts sorts before another or beside it. -/
def pairLe (a b : String × String) : Bool := a.1 < b.1 || (a.1 == b.1 && a.2 ≤ b.2)

def sortPairs (es : List (String × String)) : List (String × String) := es.mergeSort pairLe

/-- White space made visible; a line feed keeps its line break. -/
def visible (c : Char) : List Char :=
  if c = ' ' then ['⎵'] else if c = '\t' then ['⇥'] else if c = '\n' then ['↩', '\n'] else [c]

mutual

/-- The form of a value in feedback: white space is visible and mappings are sorted. -/
def shown : Value → String
  | str s => "\"" ++ String.ofList (s.toList.flatMap visible) ++ "\""
  | dict es =>
    braced (commas ((sortPairs (shownEntries es)).map fun e => e.1 ++ ": " ++ e.2))
  | list xs => "[" ++ commas (shownItems xs) ++ "]"
  | tuple xs => "(" ++ commas (shownItems xs) ++ ")"
  | v => v.text

/-- The forms of values in feedback. -/
def shownItems : List Value → List String
  | [] => []
  | v :: vs => shown v :: shownItems vs

def shownEntries : List (Value × Value) → List (String × String)
  | [] => []
  | (k, v) :: rest => (shown k, shown v) :: shownEntries rest

end

mutual

/-- Whether all integers that a value holds have a text. -/
def isWritable : Value → Bool
  | int n => Decimal.isWritable n
  | list xs | tuple xs | set xs => areWritable xs
  | dict es => areEntriesWritable es
  | settings s => Decimal.isWritable s.penalty
  | _ => true

def areWritable : List Value → Bool
  | [] => true
  | v :: vs => isWritable v && areWritable vs

def areEntriesWritable : List (Value × Value) → Bool
  | [] => true
  | (k, v) :: rest => isWritable k && isWritable v && areEntriesWritable rest

end

/-- A form of a value, if the value has any. -/
def written (form : Value → String) (v : Value) : Except Failure String :=
  if v.isWritable then .ok (form v) else .error Decimal.tooLong

/-- The entries of a mapping as text, in order. -/
def sortedTexts (es : List (Value × Value)) : List (String × String) :=
  sortPairs (es.map fun e => (e.1.text, e.2.text))

/-- Whether two values have the same text; mappings are compared entry by entry in sorted order. -/
def agrees (expected actual : Value) : Bool :=
  match expected, actual with
  | dict xs, dict ys => sortedTexts xs == sortedTexts ys
  | v, w => v.text == w.text

/-- A tuple of test data, which has two to eight values. -/
def row (values : List Value) : Except Failure Value :=
  if 2 ≤ values.length ∧ values.length ≤ 8 then .ok (tuple values)
  else .error (.type s!"t() builds tuples of 2 to 8 values ({values.length} given)")

def table (rows : List Value) : Value := list rows

end Grader.Value
