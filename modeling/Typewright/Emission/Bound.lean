/-
Bounds in code: the operators that compare a value with its bounds, and the numbers that they are.
Both languages write them alike.
-/
import Typewright.Emission.Error

namespace Typewright.Emission

/-- The operator between a value and its bound from a side. -/
def comparison (side : Side) (edge : Edge) : String :=
  (match side with
    | .lower => ">"
    | .upper => "<") ++
  (match edge with
    | .inclusive => "="
    | .exclusive => "")

/-- A number in code. -/
def numeral (n : Number) : Except EmissionFailure String :=
  if n.hasText then .ok n.text else .error (.fault .value)

end Typewright.Emission
