/-
Runs of code points: the shape in which the character tables are written.
-/

namespace Typewright.Text

/-- The code points `first`, `first + step`, and so on up to `last`. -/
structure Run where
  first : Nat
  last : Nat
  step : Nat
deriving Repr, DecidableEq

namespace Run

/-- Whether a code point is one of the run. -/
def contains (r : Run) (n : Nat) : Bool :=
  r.first ≤ n && n ≤ r.last && (n - r.first) % r.step == 0

end Run

/-- Whether a character lies in one of the runs. -/
def inRuns (rs : List Run) (c : Char) : Bool := rs.any (·.contains c.toNat)

end Typewright.Text
