import Grader.Text.Utf8
import Grader.Text.Lines
import Grader.Files.Basic
import Grader.Source.Unit

/-!
Reading submission files. The encoding of a file is that of its byte order mark or of a declaration
in one of its first two lines, and UTF-8 otherwise.
-/

namespace Grader.Source.Encoding

/-- What is known of an encoding: how bytes are decoded, with a text about bytes that cannot be, or
that it does not encode text. -/
inductive Codec where
  | text (decode : List UInt8 → Except String (List Char))
  | notText

/-- The encodings that are known, by their names. -/
abbrev Codecs := String → Option Codec

def decodeBytes (table : Nat → Char) (bytes : List UInt8) : List Char :=
  bytes.map fun b => table b.toNat

/-- The characters of Latin-9 that differ from those of Latin-1. -/
def latin9 (n : Nat) : Char :=
  match n with
  | 0xA4 => '€'
  | 0xA6 => 'Š'
  | 0xA8 => 'š'
  | 0xB4 => 'Ž'
  | 0xB8 => 'ž'
  | 0xBC => 'Œ'
  | 0xBD => 'œ'
  | 0xBE => 'Ÿ'
  | n => Char.ofNat n

def decodeAscii (bytes : List UInt8) : Except Text.Utf8.Fault (List Char) :=
  match bytes.findIdx? fun b => 0x80 ≤ b.toNat with
  | none => .ok (decodeBytes Char.ofNat bytes)
  | some i =>
    .error ⟨"ascii", i, 1, (bytes.getD i 0).toNat, "ordinal not in range(128)"⟩

def utf8 : Codec := .text fun bytes => (Text.Utf8.decode bytes).mapError Text.Utf8.Fault.message

def ascii : Codec := .text fun bytes => (decodeAscii bytes).mapError Text.Utf8.Fault.message

/-- An encoding with one byte for every character. -/
def single (table : Nat → Char) : Codec := .text fun bytes => .ok (decodeBytes table bytes)

/-- Spellings of encodings, lower case and with underscores. -/
def spellings : List (Codec × List String) :=
  [(utf8, ["utf_8", "utf8", "u8", "utf", "utf8_ucs2", "utf8_ucs4", "cp65001"]),
    (single Char.ofNat, ["iso_8859_1", "latin_1", "latin1", "latin", "l1", "8859", "cp819",
      "iso8859", "iso8859_1", "iso_ir_100", "csisolatin1", "iso_8859_1_1987", "ibm819"]),
    (single latin9, ["iso8859_15", "iso_8859_15", "latin9", "l9"]),
    (ascii, ["ascii", "us_ascii", "us", "646", "ansi_x3_4_1968", "ansi_x3_4_1986", "cp367",
      "csascii", "ibm367", "iso646_us", "iso_646_irv_1991", "iso_ir_6"]),
    (.notText, ["rot13", "rot_13", "base64", "base_64", "base64_codec", "hex", "hex_codec", "bz2",
      "bz2_codec", "quopri", "quopri_codec", "quoted_printable", "quotedprintable", "uu",
      "uu_codec", "zip", "zlib", "zlib_codec"])]

/-- A name in the form in which spellings are listed. -/
def spelling (name : String) : String :=
  String.ofList (name.toList.map fun c => if c.isAlphanum then c.toLower else '_')

/-- The encodings that are known unless others are given. -/
def known : Codecs := fun name =>
  (spellings.find? fun (_, names) => names.contains (spelling name)).map (·.1)

/-- The name under which a declared encoding is known: variants of UTF-8 and of Latin-1 have one
name each. -/
def normalName (name : String) : String :=
  let cs := (name.toList.take 12).map fun c => if c = '_' then '-' else c.toLower
  let isVariant (s : String) : Bool := cs == s.toList || (s.toList ++ ['-']).isPrefixOf cs
  if isVariant "utf-8" then "utf-8"
  else if isVariant "latin-1" || isVariant "iso-8859-1" || isVariant "iso-latin-1" then
    "iso-8859-1"
  else name

/-- White space at the start of a line. -/
def isLead (c : Char) : Bool := c = ' ' || c = '\t' || c = '\x0c'

/-- The name behind the first declaration in a comment. -/
def declaredIn : List Char → Option String
  | [] => none
  | c :: rest =>
    let found :=
      match c :: rest with
      | 'c' :: 'o' :: 'd' :: 'i' :: 'n' :: 'g' :: mark :: tail =>
        if mark = ':' || mark = '=' then
          let name := (tail.dropWhile fun c => c = ' ' || c = '\t').takeWhile fun c =>
            c.isAlphanum || c = '_' || c = '-' || c = '.'
          if name = [] then none else some (String.ofList name)
        else none
      | _ => none
    match found with
    | some name => some name
    | none => declaredIn rest

def declared (line : List Char) : Option String :=
  match line.dropWhile isLead with
  | '#' :: comment => declaredIn (comment.takeWhile (· != '\n'))
  | _ => none

/-- Whether a line is blank or a comment. -/
def isVoid (line : List Char) : Bool :=
  match line.dropWhile isLead with
  | [] => true
  | c :: _ => c = '#' || c = '\r' || c = '\n'

/-- The bytes up to and including the first line feed, and the rest. -/
def firstLine : List UInt8 → List UInt8 × List UInt8
  | [] => ([], [])
  | b :: bs =>
    if b = 10 then ([b], bs)
    else
      let (line, rest) := firstLine bs
      (b :: line, rest)

section Detection

variable (codecs : Codecs) (file : String)

/-- The encoding that a line of a file with the given name declares, if it declares one. -/
def cookie (marked : Bool) (line : List UInt8) : Except Failure (Option String) :=
  let quoted := Text.Quoted.text file
  match Text.Utf8.decode line with
  | .error _ =>
    .error ⟨"SyntaxError", s!"invalid or missing encoding declaration for {quoted}", []⟩
  | .ok cs =>
    match (declared cs).map normalName with
    | none => .ok none
    | some name =>
      if (codecs name).isNone then
        .error ⟨"SyntaxError", s!"unknown encoding for {quoted}: {name}", []⟩
      else if marked && name != "utf-8" then
        .error ⟨"SyntaxError", s!"encoding problem for {quoted}: utf-8", []⟩
      else .ok (some name)

/-- The name of the encoding of a file. -/
def detect (marked : Bool) (bytes : List UInt8) : Except Failure String := do
  let (first, rest) := firstLine bytes
  if first = [] then return "utf-8"
  match ← cookie codecs file marked first with
  | some name => return name
  | none =>
    let void := match Text.Utf8.decode first with
      | .ok cs => isVoid cs
      | .error _ => false
    let second := (firstLine rest).1
    if !void || second = [] then return "utf-8"
    return (← cookie codecs file marked second).getD "utf-8"

/-- Whether a file starts with a byte order mark, and what is behind it. -/
def splitMark (bytes : List UInt8) : Bool × List UInt8 :=
  match bytes with
  | 0xEF :: 0xBB :: 0xBF :: rest => (true, rest)
  | _ => (false, bytes)

/-- The failure to read a text under an encoding that does not encode text. -/
def untextual (name : String) : Failure :=
  ⟨"LookupError",
    s!"'{name}' is not a text encoding; use codecs.open() to handle arbitrary codecs", []⟩

/-- Decodes bytes under the name of an encoding; UTF-8 is always known. -/
def decodeAs (name : String) (bytes : List UInt8) : Except Failure (List Char) :=
  match (codecs name).getD utf8 with
  | .text decode =>
    (decode bytes).mapError fun (text : String) => ⟨"UnicodeDecodeError", text, []⟩
  | .notText => .error (untextual name)

/-- The text of a source file: without its byte order mark, its lines ended by line feeds. -/
def readSource (bytes : List UInt8) : Except Failure (List Char) := do
  let (marked, body) := splitMark bytes
  let name ← detect codecs file marked body
  return Text.unixLines (← decodeAs codecs name body)

end Detection

end Grader.Source.Encoding

namespace Grader

open Source

/-- A line of a file as complaints about the file show it: undecodable bytes are replaced. -/
def Files.shownLine (fs : Files) (path : String) (line : Nat) : Option (List Char) :=
  match fs.read path with
  | .error _ => none
  | .ok bytes =>
    let body := (Encoding.splitMark bytes).2
    let lines := Text.splitFeeds (Text.unixLines (Text.Utf8.decodeLossy body.length [] body))
    match lines[line - 1]? with
    | some text => if line = 0 || (line = lines.length && text = []) then none else some text
    | none => none

/-- What opening a file to read it comes to. -/
def Files.opened (fs : Files) (path : String) : Except Failure (List UInt8) :=
  if path.toList.contains '\x00' then .error (Failure.value "embedded null byte")
  else (fs.read path).mapError fun e => e.failure path

/-- Whether a failure to read a file makes its unit unparsable rather than ending the run. -/
def isReadingFault (f : Failure) : Bool :=
  f.isA "OSError" || f.isA "SyntaxError" || f.isA "ValueError"

namespace SourceUnit

/-- The unit of a file, from what opening the file came to. A file that cannot be read gives an
unparsable unit, if the failure has a text; otherwise only a declared encoding that does not encode
text is a failure. -/
def ofOpened (codecs : Encoding.Codecs) (path : String) (opened : Except Failure (List UInt8))
    (shown : Nat → Option (List Char)) : Except Failure SourceUnit :=
  match opened >>= Encoding.readSource codecs path with
  | .ok cs => .ok (ofText path (String.ofList cs) shown)
  | .error f =>
    if isReadingFault f then
      f.message.map fun text => ⟨path, .rejected s!"cannot read file: {text}" 1 1⟩
    else .error f

/-- The unit of a file. -/
def load (fs : Files) (path : String) (codecs : Encoding.Codecs := Encoding.known) :
    Except Failure SourceUnit :=
  ofOpened codecs path (fs.opened path) (fs.shownLine path)

end SourceUnit

end Grader
