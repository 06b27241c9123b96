import Grader.Text.Quoted

/-!
Failures: what a check, a rule or a check module may raise, and what the operations of this
library report. A failure has a class, which decides who may handle it, and words itself by a text,
unless forming that text raises a failure in its turn.
-/

namespace Grader

namespace Class

/-- The classes of the language and of the libraries after what they specialise, the nearest first.
The others specialise the general class of ordinary failures alone, and no class that has a name
here specialises them. -/
def families : List (List String × List String) :=
  let general := ["Exception", "BaseException"]
  [(general,
      ["ArithmeticError", "ImportError", "LookupError", "NameError", "OSError", "RuntimeError",
        "SyntaxError", "ValueError", "Warning"]),
    (["ValueError"] ++ general, ["UnicodeError", "ValidationFailure", "ValidationError"]),
    (["UnicodeError", "ValueError"] ++ general,
      ["UnicodeDecodeError", "UnicodeEncodeError", "UnicodeTranslateError"]),
    (["ImportError"] ++ general, ["ModuleNotFoundError"]),
    (["RuntimeError"] ++ general,
      ["NotImplementedError", "RecursionError", "ScoreStateError", "SinkError", "CheckLoadError"]),
    (["BaseException"],
      ["Exception", "SystemExit", "KeyboardInterrupt", "GeneratorExit", "CancelledError",
        "BaseExceptionGroup"]),
    ([], ["BaseException"]),
    (["BaseExceptionGroup"] ++ general, ["ExceptionGroup"]),
    (["LookupError"] ++ general, ["IndexError", "KeyError"]),
    (["OSError"] ++ general,
      ["FileNotFoundError", "PermissionError", "FileExistsError", "NotADirectoryError",
        "IsADirectoryError", "BlockingIOError", "ChildProcessError", "ConnectionError",
        "InterruptedError", "ProcessLookupError", "TimeoutError"]),
    (["ConnectionError", "OSError"] ++ general,
      ["BrokenPipeError", "ConnectionAbortedError", "ConnectionRefusedError",
        "ConnectionResetError"]),
    (["ArithmeticError"] ++ general,
      ["FloatingPointError", "OverflowError", "ZeroDivisionError"]),
    (["SyntaxError"] ++ general, ["IndentationError"]),
    (["IndentationError", "SyntaxError"] ++ general, ["TabError"]),
    (["NameError"] ++ general, ["UnboundLocalError"]),
    (["Warning"] ++ general,
      ["BytesWarning", "DeprecationWarning", "EncodingWarning", "FutureWarning", "ImportWarning",
        "PendingDeprecationWarning", "ResourceWarning", "RuntimeWarning", "SyntaxWarning",
        "UnicodeWarning", "UserWarning"])]

/-- What a class specialises, if it is known by its name. -/
def basesOf (name : String) : List String :=
  ((families.find? (·.2.contains name)).map (·.1)).getD ["Exception", "BaseException"]

end Class

/-- A class of failures: its name, and the names of the classes that it specialises, with all that
these specialise. -/
structure Class where
  name : String
  bases : List String
  closed : ∀ family ∈ Class.families, ∀ n ∈ name :: bases, n ∈ family.2 →
    ∀ base ∈ family.1, base ∈ bases
  deriving Repr, DecidableEq

namespace Class

theorem closed_basesOf (name : String) : ∀ family ∈ families, ∀ n ∈ name :: basesOf name,
    n ∈ family.2 → ∀ base ∈ family.1, base ∈ basesOf name := by
  -- The table is closed itself, and has no class at two places.
  have hbelow : ∀ own ∈ families, ∀ family ∈ families, ∀ n ∈ own.2 ++ own.1, n ∈ family.2 →
      ∀ base ∈ family.1, base ∈ own.1 := by decide +kernel
  have hgeneral : ∀ family ∈ families, ∀ n ∈ ["Exception", "BaseException"], n ∈ family.2 →
      ∀ base ∈ family.1, base ∈ ["Exception", "BaseException"] := by decide +kernel
  intro family hfamily n hn hmem
  unfold basesOf at hn ⊢
  cases hfind : families.find? (·.2.contains name) with
  | some own =>
    simp only [hfind, Option.map_some, Option.getD_some] at hn ⊢
    refine hbelow own (List.mem_of_find?_eq_some hfind) family hfamily n ?_ hmem
    rcases List.mem_cons.mp hn with rfl | hn
    · exact List.mem_append_left _ (by simpa using List.find?_some hfind)
    · exact List.mem_append_right _ hn
  | none =>
    simp only [hfind, Option.map_none, Option.getD_none] at hn ⊢
    refine hgeneral family hfamily n ?_ hmem
    rcases List.mem_cons.mp hn with rfl | hn
    · have hunknown := List.find?_eq_none.mp hfind family hfamily
      exact absurd hmem (by simpa using hunknown)
    · exact hn

/-- The class of a name that the language or a library gives it. -/
def ofName (name : String) : Class := ⟨name, basesOf name, closed_basesOf name⟩

instance : Coe String Class := ⟨ofName⟩

/-- Whether a class is that of a name or specialises it. -/
def isA (c : Class) (name : String) : Bool := c.name == name || c.bases.contains name

end Class

/-- Which handlers a failure reaches: those for ordinary failures, those for exits, or none. -/
inductive Reach where
  | ordinary | exit | fatal
  deriving Repr, DecidableEq

/-- One fault of a value that was validated: where it is, and what is wrong with it. The text is
there where the fault is one of this library's own rules. -/
structure Flaw where
  path : List String
  kind : String
  text : Option String := none
  deriving Repr, DecidableEq

/-- What a failure carries besides its text. -/
inductive Detail where
  /-- A fault of the validated value that caused the failure. -/
  | flaw (f : Flaw)
  /-- The status of the process that an exit ends. -/
  | status (code : Nat)
  deriving Repr, DecidableEq

/-- How a failure words itself: by a text, or by raising the failure that is given here. That one
has a wording of its own, so that every attempt to describe a failure leads one level further. -/
inductive Wording where
  | text (s : String)
  | raises (cls : Class) (wording : Wording) (details : List Detail)
  deriving Repr, DecidableEq

instance : Coe String Wording := ⟨.text⟩

structure Failure where
  cls : Class
  wording : Wording
  details : List Detail := []
  deriving Repr, DecidableEq

namespace Failure

/-- The name of the class of the failure. -/
def kind (f : Failure) : String := f.cls.name

def isA (f : Failure) (kind : String) : Bool := f.cls.isA kind

/-- The handlers that a failure reaches depend on what its class specialises. -/
def reach (f : Failure) : Reach :=
  if f.isA "Exception" then .ordinary else if f.isA "SystemExit" then .exit else .fatal

/-- The text of the failure, or the failure that forming it raises. -/
def message (f : Failure) : Except Failure String :=
  match f.wording with
  | .text s => .ok s
  | .raises cls wording details => .error ⟨cls, wording, details⟩

/-- The text of a failure that has one. -/
def text (f : Failure) : String := f.message.toOption.getD ""

/-- How the failure is described where a check or an assertion raised it. -/
def described (f : Failure) : Except Failure String := f.message.map fun s => s!"{f.kind}: {s}"

/-- What a handler that describes the failures that it takes goes on with: the description, or a
failure that it does not take, or the one that describing it raises. -/
def describedIf (takes : Reach → Bool) (f : Failure) : Except Failure String :=
  if takes f.reach then f.described else .error f

/-- What a handler of ordinary failures goes on with. -/
def handled (f : Failure) : Except Failure String := f.describedIf (· = .ordinary)

/-- What a handler of ordinary failures and exits goes on with. -/
def contained (f : Failure) : Except Failure String := f.describedIf (· ≠ .fatal)

/-- The faults of a validated value that caused the failure. -/
def flaws (f : Failure) : List Flaw :=
  f.details.filterMap fun
    | .flaw x => some x
    | .status _ => none

/-- The status of a process that a failure ends. An exit brings its own. -/
def status (f : Failure) : Nat :=
  if f.isA "SystemExit" then
    (f.details.findSome? fun
      | .status code => some code
      | .flaw _ => none).getD 1
  else 1

def value (text : String) : Failure := ⟨"ValueError", text, []⟩

/-- A failure of a value of the wrong type. -/
def type (text : String) : Failure := ⟨"TypeError", text, []⟩

/-- A failed look-up; its text is quoted. -/
def key (text : String) : Failure := ⟨"KeyError", Text.Quoted.text text, []⟩

/-- The failure of a value that was validated, given its faults; what it says about them is not said
here. -/
def validation (fs : List Flaw) : Failure := ⟨"ValidationError", "", fs.map .flaw⟩

/-- A failed access by position. -/
def index : Failure := ⟨"IndexError", "list index out of range", []⟩

end Failure

end Grader
