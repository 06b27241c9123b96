/-!
The names that a policy is made of: the rules and the lists of names that the rules consult.
-/

namespace Grader

/-- The rules that a policy has settings for. -/
inductive RuleName where
  | imports | loops | methods | lambdas | innerClasses | collectionInterfaces | consoleOutput
  | globalVariables | cheatImports | cheatCalls
  deriving Repr, DecidableEq

namespace RuleName

/-- All rules, in the order of the catalogue. -/
def all : List RuleName :=
  [imports, loops, methods, lambdas, innerClasses, collectionInterfaces, consoleOutput,
    globalVariables, cheatImports, cheatCalls]

/-- The name of a rule in documents and reports. -/
def text : RuleName → String
  | imports => "imports"
  | loops => "loops"
  | methods => "methods"
  | lambdas => "lambdas"
  | innerClasses => "inner_classes"
  | collectionInterfaces => "collection_interfaces"
  | consoleOutput => "console_output"
  | globalVariables => "global_variables"
  | cheatImports => "cheat_imports"
  | cheatCalls => "cheat_calls"

/-- The rule of a name. -/
def ofText? (s : String) : Option RuleName := all.find? (·.text == s)

/-- Every rule is in the list of all rules. -/
theorem mem_all (r : RuleName) : r ∈ all := by cases r <;> decide

/-- A rule's name denotes it. -/
theorem ofText?_text (r : RuleName) : ofText? r.text = some r := by cases r <;> decide

theorem text_inj {m n : RuleName} : m.text = n.text ↔ m = n := by
  refine ⟨fun h => ?_, fun h => h ▸ rfl⟩
  have hm := ofText?_text m
  rw [h, ofText?_text n] at hm
  exact (Option.some.inj hm).symm

end RuleName

/-- The lists of names that rules consult. -/
inductive NameList where
  | allowedImports | forbiddenImports | forbiddenCalls | consoleCalls | iterationCalls
  | abstractCollections
  deriving Repr, DecidableEq

namespace NameList

/-- All lists, in the order in which a policy shows them. -/
def all : List NameList :=
  [allowedImports, forbiddenImports, forbiddenCalls, consoleCalls, iterationCalls,
    abstractCollections]

/-- The name of a list in documents. -/
def text : NameList → String
  | allowedImports => "allowed_imports"
  | forbiddenImports => "forbidden_imports"
  | forbiddenCalls => "forbidden_calls"
  | consoleCalls => "console_calls"
  | iterationCalls => "iteration_calls"
  | abstractCollections => "abstract_collection_types"

/-- What a list holds unless a policy says otherwise. -/
def default : NameList → List String
  | allowedImports =>
    ["__future__", "collections", "dataclasses", "functools", "itertools", "math", "random", "re",
      "string", "typing"]
  | forbiddenImports =>
    ["atexit", "builtins", "ctypes", "gc", "importlib", "inspect", "multiprocessing", "pty",
      "signal", "subprocess"]
  | forbiddenCalls =>
    ["exit", "quit", "sys.exit", "os._exit", "os.abort", "os.kill", "os.system", "os.popen",
      "eval", "exec", "compile", "__import__"]
  | consoleCalls => ["print", "sys.stdout.write", "sys.stdout.writelines", "pprint"]
  | iterationCalls => ["map", "filter", "reduce", "starmap", "forEach", "for_each"]
  | abstractCollections =>
    ["AbstractSet", "Collection", "Container", "Iterable", "Iterator", "Mapping",
      "MutableMapping", "MutableSequence", "MutableSet", "Sequence"]

end NameList

end Grader
