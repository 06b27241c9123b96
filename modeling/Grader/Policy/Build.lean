import Grader.Policy.Basic
import Grader.Policy.Coerce

/-!
Policies from values and back. `Policy.ofValue` reads a mapping; what it leaves out has its
default, and the settings of a rule may be a truth value that switches the rule, or a mapping that
changes some of its default settings. `Policy.toValue` gives the mapping of a policy, and changed
policies are read from changed mappings.
-/

namespace Grader

namespace RuleSettings

/-- The names of the settings. -/
def keys : List String := ["enabled", "penalty", "per_occurrence"]

/-- Settings from entries; those that are absent are taken from `base`. -/
def ofEntries (base : RuleSettings) (es : List (Value × Value)) : Checked RuleSettings :=
  (Value.knownKeys keys es).map (fun _ => RuleSettings.mk)
    |> (Checked.apply · (Value.field es "enabled" Value.readTruth base.enabled))
    |> (Checked.apply · (Value.field es "penalty" (Value.readNatural 0) base.penalty))
    |> (Checked.apply · (Value.field es "per_occurrence" Value.readTruth base.perOccurrence))

/-- The mapping of settings. -/
def toValue (s : RuleSettings) : Value :=
  .dict ((Value.ofSettings s).map fun e => (.str e.1, e.2))

end RuleSettings

namespace Policy

/-- The names of the fields. -/
def keys : List String :=
  ["rules"] ++ NameList.all.map NameList.text ++
    ["realistic", "zero_on_cheat", "max_score", "syntax_error_penalty", "result_scale"]

/-- A flaw of the policy as a whole. -/
def refuse {α : Type} (text : String) : Except Failure α :=
  .error (Checked.failure [⟨[], "value_error", some ("Value error, " ++ text)⟩])

/-- What a document says about a rule, merged with the rule's default settings. -/
def ruleOf (r : RuleName) (v : Value) : Except Failure (Checked RuleSettings) :=
  match v with
  | .none => .ok (.ok r.settings)
  | .bool b => .ok (.ok { r.settings with enabled := b })
  | .settings s => .ok (.ok s)
  | .dict es => .ok (Checked.under r.text (RuleSettings.ofEntries r.settings es))
  | v => refuse s!"Invalid settings for rule {r.text}: {v.quoted}"

/-- Whether a key sorts before another or beside it; `none` for keys that have no order. -/
def keyLe? : Value → Value → Option Bool
  | .str s, .str t => some !(t < s)
  | .bytes s, .bytes t => some !(t.map UInt8.toNat < s.map UInt8.toNat)
  | .float x, .float y => some (x ≤ y)
  | v, w =>
    match v.numeral?, w.numeral? with
    | some (.whole m), some (.whole n) => some (m ≤ n)
    | _, _ => none

/-- The refusal of rule names that are not known. Names that have no order or are no text give
type errors of their own. -/
def unknownRules (unknown : List Value) : Failure :=
  let clash := unknown.findSome? fun v =>
    unknown.findSome? fun w => if (keyLe? v w).isNone && !v.same w then some (v, w) else none
  match clash with
  | some (v, w) =>
    .type (s!"'<' not supported between instances of '{w.qualifiedTypeName}' and " ++
      s!"'{v.qualifiedTypeName}'")
  | none =>
    let sorted := unknown.mergeSort fun v w => (keyLe? v w).getD true
    match (sorted.mapIdx fun i v => (i, v)).find? fun (_, v) => !v.isText with
    | some (i, v) =>
      .type s!"sequence item {i}: expected str instance, {v.qualifiedTypeName} found"
    | none =>
      let names := Value.commas (sorted.map Value.text)
      let valid := Value.commas (RuleName.all.map RuleName.text)
      Checked.failure
        [⟨[], "value_error",
          some s!"Value error, Unknown rules: {names}. Valid rules: {valid}"⟩]

/-- What a document says about the rules. Anything that counts as false says nothing. -/
def rulesOf (v : Value) : Except Failure (List (Checked (RuleName × RuleSettings))) :=
  match v with
  | .dict es =>
    let unknown := (es.map (·.1)).filter fun k =>
      !RuleName.all.any fun r => (Value.str r.text).same k
    if unknown.isEmpty then
      RuleName.all.mapM fun r =>
        (ruleOf r ((Value.lookup (.str r.text) es).getD .none)).map fun c => c.map fun s => (r, s)
    else .error (unknownRules unknown)
  | v => if v.truthy then refuse "rules must be a mapping of rule name to settings" else .ok []

/-- The settings among pairs, the default ones for rules that have no pair. -/
def settingsAmong (pairs : List (RuleName × RuleSettings)) (r : RuleName) : RuleSettings :=
  ((pairs.find? (·.1 == r)).map (·.2)).getD r.settings

/-- The names among pairs, the default ones for lists that have no pair. -/
def namesAmong (pairs : List (NameList × List String)) (l : NameList) : List String :=
  ((pairs.find? (·.1 == l)).map (·.2)).getD l.default

abbrev Positive := { n : Nat // 0 < n }

/-- A positive floating point number. -/
abbrev PositiveFloat := { x : Float // 0 < x }

/-- Reads a positive natural number. -/
def readPositive (v : Value) : Checked Positive :=
  (Value.readNatural 1 v).bind fun n =>
    if h : 0 < n then .ok ⟨n, h⟩ else Checked.flawed "greater_than_equal"

/-- Reads a positive floating point number. -/
def readPositiveFloat (v : Value) : Checked PositiveFloat :=
  (Value.readFloat v).bind fun x => if h : 0 < x then .ok ⟨x, h⟩ else Checked.flawed "greater_than"

/-- A policy of its parts. -/
def assemble (rules : List (RuleName × RuleSettings)) (lists : List (NameList × List String))
    (realistic zeroOnCheat : Bool) (maxScore : Positive) (syntaxErrorPenalty : Nat)
    (resultScale : PositiveFloat) : Policy where
  rules := settingsAmong rules
  lists := namesAmong lists
  realistic := realistic
  zeroOnCheat := zeroOnCheat
  maxScore := maxScore.1
  syntaxErrorPenalty := syntaxErrorPenalty
  resultScale := resultScale.1
  maxScore_pos := maxScore.2
  resultScale_pos := resultScale.2

/-- The lists of names that entries give. -/
def listsOf (es : List (Value × Value)) : Checked (List (NameList × List String)) :=
  Checked.all (NameList.all.map fun l =>
    (Value.field es l.text Value.readNames l.default).map fun names => (l, names))

/-- A policy of the entries of a mapping, once the rules are read. -/
def ofEntries (rules : List (Checked (RuleName × RuleSettings))) (es : List (Value × Value)) :
    Checked Policy :=
  (Value.knownKeys keys es).map (fun _ => assemble)
    |> (Checked.apply · (Checked.under "rules" (Checked.all rules)))
    |> (Checked.apply · (listsOf es))
    |> (Checked.apply · (Value.field es "realistic" Value.readTruth standard.realistic))
    |> (Checked.apply · (Value.field es "zero_on_cheat" Value.readTruth standard.zeroOnCheat))
    |> (Checked.apply · (Value.field es "max_score" readPositive
        ⟨standard.maxScore, standard.maxScore_pos⟩))
    |> (Checked.apply · (Value.field es "syntax_error_penalty" (Value.readNatural 0)
        standard.syntaxErrorPenalty))
    |> (Checked.apply · (Value.field es "result_scale" readPositiveFloat
        ⟨standard.resultScale, standard.resultScale_pos⟩))

def ofValue (v : Value) : Except Failure Policy :=
  match v with
  | .dict es => do
    let rules ← match Value.lookup (.str "rules") es with
      | some w => rulesOf w
      | none => pure []
    (ofEntries rules es).mapError Checked.failure
  | _ => .error (Checked.failure [⟨[], "model_type", none⟩])

def rulesValue (p : Policy) : List (Value × Value) :=
  RuleName.all.map fun r => (.str r.text, (p.rules r).toValue)

/-- The entries of a policy, in the order of its fields. -/
def entries (p : Policy) : List (Value × Value) :=
  [(.str "rules", .dict p.rulesValue)] ++
    NameList.all.map (fun l => (.str l.text, .list ((p.lists l).map Value.str))) ++
    [(.str "realistic", .bool p.realistic), (.str "zero_on_cheat", .bool p.zeroOnCheat),
      (.str "max_score", .int p.maxScore),
      (.str "syntax_error_penalty", .int p.syntaxErrorPenalty),
      (.str "result_scale", .float p.resultScale)]

/-- The mapping of a policy. -/
def toValue (p : Policy) : Value := .dict p.entries

/-- Replaces the values of some keys. -/
def withEntries (es changes : List (Value × Value)) : List (Value × Value) :=
  changes.foldl (fun acc c => Value.insert acc c.1 c.2) es

/-- The refusal of changes that do not give a policy. -/
def refusedChanges (names : List String) (f : Failure) : Failure :=
  if f.kind == "ValidationError" then
    { Failure.value ("Invalid policy overrides: " ++ Text.Quoted.list (names.mergeSort (· ≤ ·)))
      with details := f.details }
  else f

/-- The policy with some fields replaced. -/
def withOverrides (p : Policy) (changes : List (String × Value)) : Except Failure Policy :=
  (ofValue (.dict (withEntries p.entries (changes.map fun c => (.str c.1, c.2))))).mapError
    (refusedChanges (changes.map (·.1)))

/-- The policy with what is said about some rules replaced. -/
def withRules (p : Policy) (toggles : List (String × Value)) : Except Failure Policy :=
  p.withOverrides
    [("rules", .dict (withEntries p.rulesValue (toggles.map fun c => (.str c.1, c.2))))]

/-- The settings that named fields give. -/
def settingsOf (fields : List (String × Value)) : Except Failure RuleSettings :=
  (RuleSettings.ofEntries {} (fields.map fun c => (.str c.1, c.2))).mapError Checked.failure

end Policy

end Grader
