import Grader.Failure

/-!
The limit of integers as text: an integer of more than 4300 digits has no decimal text.
-/

namespace Grader.Decimal

/-- The least number with too many digits, 10 to the power of 4300. The exponents are small enough
for both powers to be evaluated. -/
def writingBound : Nat := Nat.pow (Nat.pow 10 100) 43

/-- Whether an integer has a decimal text. -/
def isWritable (n : Int) : Bool := n.natAbs < writingBound

/-- The failure of writing an integer with too many digits. -/
def tooLong : Failure :=
  .value ("Exceeds the limit (4300 digits) for integer string conversion; " ++
    "use sys.set_int_max_str_digits() to increase the limit")

/-- The decimal text of an integer. -/
def spelled (n : Int) : Except Failure String :=
  if isWritable n then .ok (toString n) else .error tooLong

end Grader.Decimal
