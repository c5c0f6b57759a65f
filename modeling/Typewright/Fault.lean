/-
Faults: what stops work on a value of a shape that the work does not admit.
-/

namespace Typewright

/-- What stops work on a value: an operation that its kind does not have, a member that it lacks,
or a content that cannot be used. -/
inductive Fault where
  | type
  | attribute
  | value
  | overflow
  | nesting
  | key
  | index
  | decimal
  | decoding
deriving Repr, DecidableEq

/-- The name of a fault, as it appears in messages. -/
def Fault.name : Fault → String
  | .type => "TypeError"
  | .attribute => "AttributeError"
  | .value => "ValueError"
  | .overflow => "OverflowError"
  | .nesting => "RecursionError"
  | .key => "KeyError"
  | .index => "IndexError"
  | .decimal => "InvalidOperation"
  | .decoding => "UnicodeDecodeError"

end Typewright
