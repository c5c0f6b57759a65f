import Typewright.Main
import Typewright.Name.Operation
import Typewright.Log
import Typewright.Support.Field
import Typewright.Support.Wire
import Typewright.Proofs.Extraction.Complete
import Typewright.Proofs.Extraction.Closed
import Typewright.Proofs.Extraction.Referenced
import Typewright.Proofs.Refinement.Renaming
import Typewright.Proofs.Pipeline.Untouched
import Typewright.Proofs.Service.Contained
import Typewright.Proofs.Refinement.Members
import Typewright.Proofs.Extraction.Blocks
import Typewright.Proofs.Service.Endpoints
import Typewright.Proofs.Document.Replace
import Typewright.Proofs.Schema.Targets
import Typewright.Proofs.Extraction.Beside
import Typewright.Proofs.Extraction.Traces
import Typewright.Proofs.Service.Paths
import Typewright.Proofs.Emission.Apart
import Typewright.Proofs.Emission.Covered
import Typewright.Proofs.Store.Generation
import Typewright.Proofs.Emission.Members
import Typewright.Proofs.Emission.Variables
import Typewright.Proofs.Emission.Integers
import Typewright.Proofs.Schema.Satisfiable
import Typewright.Proofs.Schema.Expansion
import Typewright.Proofs.Service.Circle
import Typewright.Proofs.Extraction.Inline
import Typewright.Proofs.Support.Field
import Typewright.Proofs.Support.Wire
import Typewright.Proofs.Options.Configuration
import Typewright.Proofs.Document.Formats
import Typewright.Proofs.Document.Pointer
import Typewright.Proofs.Service.Names
import Typewright.Proofs.Name.Operation
import Typewright.Proofs.Refinement.Fields
import Typewright.Proofs.Emission.Literal
import Typewright.Proofs.Emission.Verbatim
import Typewright.Proofs.Emission.Docstring
import Typewright.Proofs.Pipeline.Contained
import Typewright.Proofs.Emission.Indentation
import Typewright.Proofs.Name.Letters
import Typewright.Proofs.Name.Camel
import Typewright.Proofs.Name.Numbering
import Typewright.Proofs.Text.Markup
