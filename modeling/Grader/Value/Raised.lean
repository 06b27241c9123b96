import Grader.Value.Text

/-!
Failures given by the name of their class and the values they carry. The text of a failure depends
on its class: look-up errors quote what they carry, errors of the operating system show their
number, and errors of encodings show the character they are about. A failure has no text if a value
in it has none, or if it is about a character in front of the first one of its text.
-/

namespace Grader.Failure

/-- The class of an error of the operating system, by its number. -/
def systemKind (n : Int) : String :=
  if n = 1 ∨ n = 13 then "PermissionError"
  else if n = 2 then "FileNotFoundError"
  else if n = 3 then "ProcessLookupError"
  else if n = 4 then "InterruptedError"
  else if n = 10 then "ChildProcessError"
  else if n = 11 ∨ n = 114 ∨ n = 115 then "BlockingIOError"
  else if n = 17 then "FileExistsError"
  else if n = 20 then "NotADirectoryError"
  else if n = 21 then "IsADirectoryError"
  else if n = 32 ∨ n = 108 then "BrokenPipeError"
  else if n = 103 then "ConnectionAbortedError"
  else if n = 104 then "ConnectionResetError"
  else if n = 110 then "TimeoutError"
  else if n = 111 then "ConnectionRefusedError"
  else "OSError"

/-- Classes of errors of the operating system other than the general one. -/
def systemKinds : List String :=
  ["PermissionError", "FileNotFoundError", "ProcessLookupError", "InterruptedError",
    "ChildProcessError", "BlockingIOError", "FileExistsError", "NotADirectoryError",
    "IsADirectoryError", "BrokenPipeError", "ConnectionError", "ConnectionAbortedError",
    "ConnectionResetError", "ConnectionRefusedError", "TimeoutError"]

/-- The text of the values that a failure carries. -/
def carriedText : List Value → Except Failure String
  | [] => .ok ""
  | [v] => v.written Value.text
  | vs => (Value.tuple vs).written Value.quoted

/-- The class of a failure that carries values; a general error of the operating system takes the
class of its number. -/
def raisedKind (kind : String) (carried : List Value) : String :=
  let kind := if kind == "IOError" || kind == "EnvironmentError" then "OSError" else kind
  match kind, carried with
  | "OSError", .int n :: _ :: rest => if rest.length ≤ 3 then systemKind n else kind
  | _, _ => kind

/-- The text of an error of the operating system. -/
def systemText (carried : List Value) : Except Failure String :=
  let named (n reason : Value) (file other : List Value) : Except Failure String := do
    let n ← n.written Value.text
    let reason ← reason.written Value.text
    let files ← (file ++ other).mapM (Value.written Value.quoted)
    return s!"[Errno {n}] {reason}" ++
      (if files.isEmpty then "" else ": " ++ String.intercalate " -> " files)
  match carried with
  | [n, reason] => named n reason [] []
  | [n, reason, .none] | [n, reason, .none, _] | [n, reason, .none, _, _] => named n reason [] []
  | [n, reason, file] | [n, reason, file, _] | [n, reason, file, _, .none] =>
    named n reason [file] []
  | [n, reason, file, _, other] => named n reason [file] [other]
  | vs => carriedText vs

/-- The failure of forming the text of an error of an encoding that is about a character that is
not there. -/
def unread (kind : String) : Failure :=
  ⟨"SystemError",
    s!"<built-in method __format__ of {kind} object> returned a result with an exception set", []⟩

/-- A character as errors of encodings show it. -/
def characterText (c : Char) : String :=
  let n := c.toNat
  String.ofList <| if n ≤ 0xff then '\\' :: 'x' :: Text.Quoted.hex 2 n
    else if n ≤ 0xffff then '\\' :: 'u' :: Text.Quoted.hex 4 n
    else '\\' :: 'U' :: Text.Quoted.hex 8 n

/-- The text of an error of an encoding about the characters of a text from `first` up to `last`. -/
def encodingText (kind lead text : String) (first last : Int) (reason : String) :
    Except Failure String :=
  if first < text.length ∧ last = first + 1 then
    if first < 0 then .error (unread kind)
    else
      let c := text.toList.getD first.toNat 'a'
      .ok s!"{lead} character '{characterText c}' in position {first}: {reason}"
  else .ok s!"{lead} characters in position {first}-{last - 1}: {reason}"

/-- The text of a failure that carries values. -/
def raisedText (kind : String) (carried : List Value) : Except Failure String :=
  if kind == "KeyError" then
    match carried with
    | [v] => v.written Value.quoted
    | vs => carriedText vs
  else if kind == "SyntaxError" || kind == "IndentationError" || kind == "TabError" then
    match carried with
    | [] => .ok "None"
    | v :: _ => v.written Value.text
  else if kind == "OSError" || systemKinds.contains kind then systemText carried
  else
    match kind, carried with
    | "UnicodeEncodeError", [.str encoding, .str text, .int first, .int last, .str reason] =>
      encodingText kind s!"'{encoding}' codec can't encode" text first last reason
    | "UnicodeTranslateError", [.str text, .int first, .int last, .str reason] =>
      encodingText kind "can't translate" text first last reason
    | _, vs => carriedText vs

/-- How a failure words itself, given its text or what forming it raises. -/
def wordingOf : Except Failure String → Wording
  | .ok s => .text s
  | .error f => .raises f.cls f.wording f.details

/-- The status of a process that an exit ends, by the values that it carries: a number is the
status, as far as a status can hold it, and anything else but nothing is a complaint. -/
def exitStatus : List Value → Nat
  | [] | [.none] => 0
  | [.int n] => if -0x8000000000000000 ≤ n ∧ n < 0x8000000000000000 then (n % 256).toNat else 255
  | [.bool b] => if b then 1 else 0
  | _ => 1

/-- A failure of a class that carries values. -/
def raised (kind : String) (carried : List Value) : Failure :=
  let kind := raisedKind kind carried
  ⟨kind, wordingOf (raisedText kind carried),
    if kind == "SystemExit" then [.status (exitStatus carried)] else []⟩

end Grader.Failure
