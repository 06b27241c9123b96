import Grader.Decimal.Read
import Grader.Failure
import Grader.Text.Blank

/-!
The arguments of the command line. Options may stand before or after the files, a value follows its
option or stands behind an equals sign, and short options may be joined. `Command.ofArguments`
reads a command or says what is wrong with the arguments.
-/

namespace Grader

/-- What is wrong with arguments. -/
inductive UsageError where
  | noCommand
  | unknownCommand (name : String)
  | unknownOption (name : String)
  | missingValue (option : String)
  | unwantedValue (option : String)
  | missingFiles
  | missingOption (names : String)
  | extra (arguments : List String)
  /-- An argument that is refused, and why. -/
  | invalid (argument reason : String)
  deriving Repr, DecidableEq

namespace UsageError

/-- The class of the failure. -/
def kind : UsageError → String
  | noCommand | unknownCommand _ | extra _ => "UsageError"
  | unknownOption _ => "NoSuchOption"
  | missingValue _ | unwantedValue _ => "BadOptionUsage"
  | missingFiles | missingOption _ => "MissingParameter"
  | invalid _ _ => "BadParameter"

/-- What is said about the arguments. -/
def message : UsageError → String
  | noCommand => "Missing command."
  | unknownCommand name => "No such command " ++ Text.Quoted.text name ++ "."
  | unknownOption name => "No such option: " ++ name
  | missingValue option => "Option " ++ Text.Quoted.text option ++ " requires an argument."
  | unwantedValue option => "Option " ++ Text.Quoted.text option ++ " does not take a value."
  | missingFiles => "Missing argument 'files'."
  | missingOption names => "Missing option " ++ names ++ "."
  | extra arguments =>
    "Got unexpected extra argument(s) (" ++ String.intercalate " " arguments ++ ")"
  | invalid argument reason => "Invalid value for " ++ argument ++ ": " ++ reason

def failure (e : UsageError) : Failure := ⟨e.kind, e.message, []⟩

end UsageError

/-- An option of a command: its names, and whether a value belongs to it. -/
structure CommandOption where
  names : List String
  takesValue : Bool := false
  deriving Repr, DecidableEq

namespace CommandOption

/-- The name under which an option is kept. -/
def name (o : CommandOption) : String := o.names.headD ""

def policy : CommandOption := ⟨["--policy", "-p"], true⟩

def checks : CommandOption := ⟨["--checks", "-c"], true⟩

/-- The file for the record of an evaluation. -/
def results : CommandOption := ⟨["--results"], true⟩

def seed : CommandOption := ⟨["--seed"], true⟩

/-- Evaluates fixture code, to which the rules about cheating do not apply. -/
def selfTest : CommandOption := ⟨["--self-test"], false⟩

/-- Nothing on the console. -/
def quiet : CommandOption := ⟨["--quiet"], false⟩

/-- More in the log. -/
def verbose : CommandOption := ⟨["--verbose", "-v"], false⟩

/-- Violations make the command fail. -/
def failOnViolation : CommandOption := ⟨["--fail-on-violation"], false⟩

/-- Every prohibition is on. -/
def strict : CommandOption := ⟨["--strict"], false⟩

/-- A file that is there is overwritten. -/
def force : CommandOption := ⟨["--force"], false⟩

end CommandOption

/-- Arguments sorted out: the options that were given, with their values, and the others. -/
structure Arguments where
  options : List (String × String) := []
  positional : List String := []
  deriving Repr, DecidableEq

namespace Arguments

def withOption (o : CommandOption) (value : String) (a : Arguments) : Arguments :=
  { a with options := (o.name, value) :: a.options }

/-- The value of an option, the last one that was given. -/
def value? (a : Arguments) (o : CommandOption) : Option String :=
  a.options.reverse.lookup o.name

/-- Whether an option was given. -/
def has (a : Arguments) (o : CommandOption) : Bool := (a.value? o).isSome

/-- Short options joined behind one hyphen: those that take no value, and the one behind them that
takes one, with the rest of the characters if there are any. -/
def cluster (known : List CommandOption) :
    List Char → Except UsageError (List CommandOption × Option (CommandOption × List Char))
  | [] => .ok ([], none)
  | c :: rest =>
    let name := String.ofList ['-', c]
    match known.find? (·.names.contains name) with
    | none => .error (.unknownOption name)
    | some o =>
      if o.takesValue then .ok ([], some (o, rest))
      else (cluster known rest).map fun (flags, last) => (o :: flags, last)

/-- The name of a long option and the value behind its equals sign. -/
def splitValue (cs : List Char) : String × Option String :=
  match Decimal.cut (· == '=') cs with
  | (name, value) => (String.ofList name, value.map String.ofList)

/-- How an option was written, without a value behind it. -/
def shownAs (o : CommandOption) (joined : Bool) : String :=
  if joined then (o.names.getLast?).getD o.name else o.name

/-- Sorts arguments out. -/
def ofList (known : List CommandOption) : List String → Except UsageError Arguments
  | [] => .ok {}
  | a :: rest =>
    match a.toList with
    | ['-', '-'] => .ok { positional := rest }
    | '-' :: '-' :: cs =>
      let (name, value) := splitValue ('-' :: '-' :: cs)
      match known.find? (·.names.contains name), value, rest with
      | none, _, _ => .error (.unknownOption name)
      | some o, some v, rest =>
        if o.takesValue then (ofList known rest).map (withOption o v)
        else .error (.unwantedValue name)
      | some o, none, rest =>
        if o.takesValue then
          match rest with
          | [] => .error (.missingValue name)
          | v :: rest => (ofList known rest).map (withOption o v)
        else (ofList known rest).map (withOption o "")
    | '-' :: c :: cs =>
      match cluster known (c :: cs) with
      | .error e => .error e
      | .ok (flags, none) =>
        (ofList known rest).map fun args => flags.foldr (fun o a => a.withOption o "") args
      | .ok (flags, some (o, v :: vs)) =>
        (ofList known rest).map fun args =>
          flags.foldr (fun o a => a.withOption o "") (args.withOption o (String.ofList (v :: vs)))
      | .ok (flags, some (o, [])) =>
        match rest with
        | [] => .error (.missingValue (shownAs o true))
        | v :: rest =>
          (ofList known rest).map fun args =>
            flags.foldr (fun o a => a.withOption o "") (args.withOption o v)
    | _ => (ofList known rest).map fun args => { args with positional := a :: args.positional }

end Arguments

inductive Command where
  | lint (files : List String) (policy : Option String) (failOnViolation : Bool)
  | evaluate (files : List String) (checks : String) (policy results : Option String)
      (seed : Option Int) (selfTest quiet : Bool)
  | initPolicy (path : String) (strict force : Bool)
  | version
  deriving Repr, DecidableEq

namespace Command

open CommandOption

def integer (o : CommandOption) (s : String) : Except UsageError Int :=
  let (negative, body) := Decimal.splitSign (Text.strip s).toList
  match Decimal.dropUnderscores true body with
  | some ds =>
    let n := Int.ofNat (Decimal.digitsValue ds)
    .ok (if negative then -n else n)
  | none =>
    .error (.invalid (Text.Quoted.text o.name)
      (Text.Quoted.text s ++ " is not a valid integer."))

/-- The files of a command, of which there must be some. -/
def filesOf (a : Arguments) : Except UsageError (List String) :=
  if a.positional.isEmpty then .error .missingFiles else .ok a.positional

/-- Refuses arguments that are left over. -/
def refuseExtra (rest : List String) : Except UsageError Unit :=
  if rest.isEmpty then .ok () else .error (.extra rest)

/-- Reads the arguments of `lint`. -/
def readLint (args : List String) : Except UsageError Command := do
  let a ← Arguments.ofList [policy, failOnViolation, verbose] args
  return .lint (← filesOf a) (a.value? policy) (a.has failOnViolation)

/-- Reads the arguments of `evaluate`. -/
def readEvaluate (args : List String) : Except UsageError Command := do
  let a ← Arguments.ofList [checks, policy, results, seed, selfTest, quiet, verbose] args
  let seed ← (a.value? seed).mapM (integer seed)
  let files ← filesOf a
  match a.value? checks with
  | none => throw (.missingOption (String.intercalate " / " (checks.names.map Text.Quoted.text)))
  | some reference =>
    return .evaluate files reference (a.value? policy) (a.value? results) seed (a.has selfTest)
      (a.has quiet)

/-- Reads the arguments of `init-policy`. -/
def readInitPolicy (args : List String) : Except UsageError Command := do
  let a ← Arguments.ofList [strict, force] args
  refuseExtra a.positional.tail
  return .initPolicy (a.positional.headD "policy.yaml") (a.has strict) (a.has force)

/-- Reads the arguments of `version`. -/
def readVersion (args : List String) : Except UsageError Command := do
  let a ← Arguments.ofList [] args
  refuseExtra a.positional
  return .version

/-- Reads the arguments of the command with a name. -/
def ofName (name : String) (args : List String) : Except UsageError Command :=
  if name = "lint" then readLint args
  else if name = "evaluate" then readEvaluate args
  else if name = "init-policy" then readInitPolicy args
  else if name = "version" then readVersion args
  else .error (.unknownCommand name)

/-- Reads a command: its name, in front of which there are no options, and its arguments. -/
def ofArguments : List String → Except UsageError Command
  | [] => .error .noCommand
  | "--" :: name :: args => ofName name args
  | name :: args => do
    let a ← Arguments.ofList [] [name]
    match a.positional with
    | [] => throw .noCommand
    | _ => ofName name args

end Command

end Grader
