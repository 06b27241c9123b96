import Grader.Value.Text
import Grader.Yaml.Cursor
import Grader.Yaml.Resolve

/-!
Values as documents: mappings of mappings, of sequences of scalars, and of scalars. Text is plain
where it reads back as text, else in single quotes, and in double quotes where it holds anything
that is not printable ASCII. Long texts fold at single blanks.
-/

namespace Grader.Yaml

/-- The column behind which text folds. -/
def bestWidth : Nat := 80

structure TextForm where
  /-- Whether plain text would be read as something of the format. -/
  indicators : Bool := false
  lineBreaks : Bool := false
  /-- Whether there are characters that must be escaped. -/
  special : Bool := false
  /-- Whether a blank or line break stands at an end. -/
  edges : Bool := false
  /-- Whether a blank follows a line break. -/
  breakSpace : Bool := false
  /-- Whether a line break follows a blank. -/
  spaceBreak : Bool := false
  deriving Repr, DecidableEq

namespace TextForm

/-- Whether a character is a printable one of ASCII or a line feed. -/
def isPlainChar (c : Char) : Bool := c == '\n' || (' ' ≤ c && c ≤ '~')

/-- Whether a first character would start something of the format; `gapNext` says that a blank or
the end follows. -/
def isLeading (c : Char) (gapNext : Bool) : Bool :=
  "#,[]\x7b\x7d&*!|>'\"%@`".toList.contains c ||
    ((c == '?' || c == ':' || c == '-') && gapNext)

/-- Adds the characters behind the first one. -/
def scan (previous : Char) (f : TextForm) : List Char → TextForm
  | [] => f
  | c :: rest =>
    let gapNext := rest.isEmpty || isWideGap (rest.headD ' ')
    scan c { f with
      indicators := f.indicators || (c == ':' && gapNext) || (c == '#' && isWideGap previous)
      lineBreaks := f.lineBreaks || isBreak c
      special := f.special || !isPlainChar c
      breakSpace := f.breakSpace || (c == ' ' && isBreak previous)
      spaceBreak := f.spaceBreak || (isBreak c && previous == ' ') } rest

/-- Whether a text starts like a document marker. -/
def startsLikeMarker (cs : List Char) : Bool :=
  cs.take 3 == ['-', '-', '-'] || cs.take 3 == ['.', '.', '.']

/-- Whether a character is a blank or a line break. -/
def isEdge (c : Char) : Bool := c == ' ' || isBreak c

def ofText (cs : List Char) : TextForm :=
  match cs with
  | [] => {}
  | c :: rest =>
    let gapNext := rest.isEmpty || isWideGap (rest.headD ' ')
    let first : TextForm :=
      { indicators := startsLikeMarker cs || isLeading c gapNext
        lineBreaks := isBreak c
        special := !isPlainChar c
        edges := isEdge c || isEdge (cs.getLastD c) }
    scan c first rest

def allowsPlain (f : TextForm) : Bool :=
  !(f.indicators || f.lineBreaks || f.special || f.edges || f.breakSpace || f.spaceBreak)

/-- Whether the text may stand in single quotes. -/
def allowsSingle (f : TextForm) : Bool := !(f.special || f.breakSpace || f.spaceBreak)

end TextForm

/-- Text that has been written, newest first, and the column behind it. -/
structure Writing where
  back : List Char := []
  column : Nat
  deriving Repr

namespace Writing

/-- Writes characters that stay on the line. -/
def put (w : Writing) (cs : List Char) : Writing := ⟨cs.reverse ++ w.back, w.column + cs.length⟩

def newLine (w : Writing) : Writing := ⟨'\n' :: w.back, 0⟩

/-- Writes blanks up to a column. -/
def pad (w : Writing) (column : Nat) : Writing := w.put (List.replicate (column - w.column) ' ')

/-- Continues on a new line at a column. -/
def fold (w : Writing) (column : Nat) : Writing := w.newLine.pad column

end Writing

/-- A text cut into runs of blanks, runs of line breaks and runs of all else. -/
def runs (cs : List Char) : List (List Char) :=
  let kind (c : Char) : Nat := if c == ' ' then 0 else if isBreak c then 1 else 2
  cs.foldr (fun c acc =>
    match acc with
    | (d :: run) :: more => if kind c = kind d then (c :: d :: run) :: more else [c] :: acc
    | _ => [c] :: acc) []

/-- Writes the runs of a text. A single blank between two runs is a fold once the column is far
enough; line breaks are doubled. `first` says that nothing has been written, and `quote` writes a
run of other characters. -/
def writeRuns (indent : Nat) (quote : List Char → List Char) (first : Bool) (w : Writing) :
    List (List Char) → Writing
  | [] => w
  | run :: more =>
    let w := match run with
      | ' ' :: _ =>
        if run.length = 1 && bestWidth < w.column && !first && !more.isEmpty then w.fold indent
        else w.put run
      | c :: _ =>
        if isBreak c then
          let start := if c == '\n' then w.newLine else w
          (run.foldl (fun w _ => w.newLine) start).pad indent
        else w.put (quote run)
      | [] => w
    writeRuns indent quote false w more

def writePlain (indent : Nat) (w : Writing) (cs : List Char) : Writing :=
  writeRuns indent id false w (runs cs)

/-- Writes text in single quotes; a quote in it is doubled. -/
def writeSingle (indent : Nat) (w : Writing) (cs : List Char) : Writing :=
  let double (run : List Char) := run.flatMap fun c => if c == '\'' then ['\'', '\''] else [c]
  (writeRuns indent double true (w.put ['\'']) (runs cs)).put ['\'']

/-- An upper case hexadecimal digit. -/
def upperHexChar (n : Nat) : Char := Char.ofNat (if n < 10 then 48 + n else 55 + n)

/-- The last hexadecimal digits of a number, in upper case. -/
def upperHex (width n : Nat) : List Char :=
  match width with
  | 0 => []
  | w + 1 => upperHex w (n / 16) ++ [upperHexChar (n % 16)]

/-- Letters that stand for a character behind a backslash. -/
def escapeLetters : List (Char × Char) :=
  [('\x00', '0'), ('\x07', 'a'), ('\x08', 'b'), ('\t', 't'), ('\n', 'n'), ('\x0b', 'v'),
    ('\x0c', 'f'), ('\r', 'r'), ('\x1b', 'e'), ('"', '"'), ('\\', '\\'), ('\x85', 'N'),
    ('\xa0', '_'), ('\u2028', 'L'), ('\u2029', 'P')]

/-- A character as it stands in double quotes, when it does not stand for itself. -/
def escaped? (c : Char) : Option (List Char) :=
  if c != '"' && c != '\\' && ' ' ≤ c && c ≤ '~' then none
  else match escapeLetters.find? (·.1 == c) with
    | some (_, letter) => some ['\\', letter]
    | none =>
      some (if c.toNat ≤ 0xFF then '\\' :: 'x' :: upperHex 2 c.toNat
        else if c.toNat ≤ 0xFFFF then '\\' :: 'u' :: upperHex 4 c.toNat
        else '\\' :: 'U' :: upperHex 8 c.toNat)

/-- Writes the rest of a text in double quotes. `pending` are characters that are not written yet,
newest first, and `inside` says that the character at hand is not the first of the text. A line is
continued behind a backslash. -/
def writeDoubleRest (indent : Nat) (inside : Bool) (w : Writing) (pending : List Char) :
    List Char → Writing
  | [] => w.put pending.reverse
  | c :: rest =>
    let (w, pending, fresh) := match escaped? c with
      | some e => ((w.put pending.reverse).put e, [], true)
      | none => (w, pending, false)
    let width := if fresh then w.column - 1 else w.column + pending.length
    if inside && !rest.isEmpty && (c == ' ' || fresh || pending.isEmpty) && bestWidth < width then
      let w := (w.put (pending.reverse ++ ['\\'])).fold indent
      let next := if fresh then rest.headD 'x' else c
      let w := if next == ' ' then w.put ['\\'] else w
      writeDoubleRest indent true w (if fresh then [] else [c]) rest
    else writeDoubleRest indent true w (if fresh then [] else c :: pending) rest

/-- Writes text in double quotes. -/
def writeDouble (indent : Nat) (w : Writing) (cs : List Char) : Writing :=
  (writeDoubleRest indent false (w.put ['"']) [] cs).put ['"']

def writeText (indent : Nat) (w : Writing) (cs : List Char) : Writing :=
  let f := TextForm.ofText cs
  if !cs.isEmpty && f.allowsPlain && Resolved.ofText cs = .text then writePlain indent w cs
  else if f.allowsSingle then writeSingle indent w cs
  else writeDouble indent w cs

def writeScalar (indent : Nat) (w : Writing) (v : Value) : Writing :=
  match v with
  | .str s => writeText indent w s.toList
  | .none => w.put "null".toList
  | .bool b => w.put (if b then "true" else "false").toList
  | .float x => w.put (Decimal.document.write x).toList
  | v => w.put v.text.toList

/-- Writes the items of a sequence, each on a line of its own behind a hyphen. -/
def writeItems (indent : Nat) (w : Writing) (items : List Value) : Writing :=
  items.foldl (fun w v =>
    (writeScalar (indent + 2) ((w.pad indent).put ['-', ' ']) v).newLine) w

mutual

/-- Writes the value of a key, with the end of its line. -/
def writeValue (indent : Nat) (w : Writing) : Value → Writing
  | .dict es =>
    if es.isEmpty then (w.put [' ', '\x7b', '\x7d']).newLine
    else writeEntries (indent + 2) w.newLine es
  | .list items =>
    if items.isEmpty then (w.put [' ', '[', ']']).newLine else writeItems indent w.newLine items
  | v => (writeScalar (indent + 2) (w.put [' ']) v).newLine

def writeEntries (indent : Nat) (w : Writing) : List (Value × Value) → Writing
  | [] => w
  | (k, v) :: rest =>
    let w := (writeScalar (indent + 2) (w.pad indent) k).put [':']
    writeEntries indent (writeValue indent w v) rest

end

/-- The document of a mapping. -/
def write (v : Value) : String :=
  let w : Writing := { column := 0 }
  let written := match v with
    | .dict es => writeEntries 0 w es
    | v => (writeScalar 2 w v).newLine
  String.ofList written.back.reverse

end Grader.Yaml
