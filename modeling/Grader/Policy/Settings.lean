/-!
The settings of one rule: whether it applies, and what its violations cost.
-/

namespace Grader

structure RuleSettings where
  enabled : Bool := true
  /-- Points deducted per violation, or once for all of them. -/
  penalty : Nat := 10
  /-- Whether every violation costs points, or only the first. -/
  perOccurrence : Bool := true
  deriving Repr, DecidableEq

namespace RuleSettings

/-- The points that a number of violations costs. -/
def deduction (s : RuleSettings) (violations : Nat) : Nat :=
  if violations = 0 then 0 else if s.perOccurrence then s.penalty * violations else s.penalty

end RuleSettings

end Grader
