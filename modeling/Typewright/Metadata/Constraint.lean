/-
Constraints on the values of a data type, and what is wrong with a declaration.

Lengths and bounds have a side: from below or from above.
-/
import Typewright.Value.Text

namespace Typewright

/-- The side from which a length or a bound limits a value. -/
inductive Side where
  | lower
  | upper
deriving Repr, DecidableEq

/-- The name of a limit on the length. -/
def Side.lengthName : Side → String
  | .lower => "MinimumLength"
  | .upper => "MaximumLength"

/-- The name of a limit on the value. -/
def Side.boundName : Side → String
  | .lower => "Minimum"
  | .upper => "Maximum"

/-- Whether a bound itself is allowed. -/
inductive Edge where
  | inclusive
  | exclusive
deriving Repr, DecidableEq

/-- A constraint on the values of a data type. -/
inductive Constraint where
  | pattern (regex : String)
  | length (side : Side) (n : Nat)
  | bound (side : Side) (value : Number) (edge : Edge)
  | required
  | allowed (values : List Value)

/-- The name of the kind of a constraint. -/
def Constraint.name : Constraint → String
  | .pattern _ => "Pattern"
  | .length side _ => side.lengthName
  | .bound side .. => side.boundName
  | .required => "Required"
  | .allowed _ => "AllowedValues"

/-- What is wrong with a declared constraint, type, field or model. -/
inductive Flaw where
  | emptyPattern
  | lengthKind (side : Side) (value : Value)
  | negativeLength (side : Side) (n : Int)
  | boundKind (side : Side) (value : Value)
  | noValues
  | unnamedType
  | unknownConstraint (typeName : String) (value : Value)
  | missingElement (field : String)
  | strayElement (field : String)
  | noFields (model : String)

/-- A flaw in words. -/
def Flaw.message : Flaw → String
  | .emptyPattern => "Pattern requires a non-empty regular expression"
  | .lengthKind side v => side.lengthName ++ " must be an integer, got " ++ v.display
  | .negativeLength side n => side.lengthName ++ " must be >= 0, got " ++ Number.intText n
  | .boundKind side v => side.boundName ++ " must be numeric, got " ++ v.display
  | .noValues => "AllowedValues requires at least one value"
  | .unnamedType => "DataType requires a name"
  | .unknownConstraint t v => "DataType " ++ t ++ ": unknown constraint " ++ v.display
  | .missingElement f => "Field " ++ f ++ ": collection fields need an element type"
  | .strayElement f => "Field " ++ f ++ ": element type given for a non-collection field"
  | .noFields m => "Model " ++ m ++ " must declare at least one field"

/-- Whether a flaw can be told: the numbers in it have texts. -/
def Flaw.hasText : Flaw → Bool
  | .lengthKind _ v => v.hasText
  | .negativeLength _ n => (Number.int n).hasText
  | .boundKind _ v => v.hasText
  | .unknownConstraint _ v => v.hasText
  | _ => true

namespace Constraint

/-- The constraint that values match a regular expression. -/
def ofPattern : Value → Except Flaw Constraint
  | .text regex => if regex == "" then .error .emptyPattern else .ok (.pattern regex)
  | _ => .error .emptyPattern

/-- The constraint that a length lies on one side of a limit. -/
def ofLength (side : Side) : Value → Except Flaw Constraint
  | .num (.int n) => if n < 0 then .error (.negativeLength side n) else .ok (.length side n.toNat)
  | v => .error (.lengthKind side v)

/-- The constraint that values lie on one side of a bound. -/
def ofBound (side : Side) (edge : Edge) : Value → Except Flaw Constraint
  | .num n => .ok (.bound side n edge)
  | v => .error (.boundKind side v)

/-- The constraint that values are among some given ones. -/
def ofValues (values : List Value) : Except Flaw Constraint :=
  if values.isEmpty then .error .noValues else .ok (.allowed values)

end Constraint

end Typewright
