import Grader.Failure
import Grader.Policy.Names
import Grader.Policy.Settings

/-!
Policies: which rules apply and what they cost, the names that the rules consult, and how points
are counted. Every policy has settings for every rule, a positive maximal score and a positive
scale; the type holds these facts.
-/

namespace Grader

/-- The settings of a rule unless a policy says otherwise: loops, methods and lambdas are allowed,
and cheating costs no points of its own. -/
def RuleName.settings : RuleName → RuleSettings
  | .loops | .methods | .lambdas => ⟨false, 10, true⟩
  | .cheatImports | .cheatCalls => ⟨true, 0, true⟩
  | _ => ⟨true, 10, true⟩

structure Policy where
  rules : RuleName → RuleSettings := RuleName.settings
  lists : NameList → List String := NameList.default
  /-- Whether real submissions are evaluated; the rules about cheating apply only then. -/
  realistic : Bool := true
  /-- Whether cheating makes the score zero. -/
  zeroOnCheat : Bool := true
  maxScore : Nat := 100
  /-- The points that an unparsable submission costs. -/
  syntaxErrorPenalty : Nat := 0
  /-- The divisor of scores in the result file. -/
  resultScale : Float := 10.0
  maxScore_pos : 0 < maxScore := by decide
  resultScale_pos : 0 < resultScale := by decide

namespace Policy

/-- The policy that applies unless another one is given. -/
def standard : Policy := {}

instance : Inhabited Policy := ⟨standard⟩

/-- The settings of a rule given by its name. -/
def settings (p : Policy) (rule : String) : Except Failure RuleSettings :=
  match RuleName.ofText? rule with
  | some r => .ok (p.rules r)
  | none => .error (.key ("Unknown rule " ++ Text.Quoted.text rule))

theorem settings_text (p : Policy) (n : RuleName) : p.settings n.text = .ok (p.rules n) := by
  simp only [settings, RuleName.ofText?_text]

/-- Whether a rule given by its name applies. -/
def isEnabled (p : Policy) (rule : String) : Except Failure Bool :=
  (p.settings rule).map (·.enabled)

/-- The policy under which every rule applies. -/
def strict : Policy := { rules := fun r => { r.settings with enabled := true } }

/-- Whether two policies say the same; scales are compared as numbers. -/
def same (p q : Policy) : Bool :=
  RuleName.all.all (fun r => p.rules r == q.rules r) &&
    NameList.all.all (fun l => p.lists l == q.lists l) &&
    p.realistic == q.realistic && p.zeroOnCheat == q.zeroOnCheat && p.maxScore == q.maxScore &&
    p.syntaxErrorPenalty == q.syntaxErrorPenalty && p.resultScale == q.resultScale

end Policy

end Grader
