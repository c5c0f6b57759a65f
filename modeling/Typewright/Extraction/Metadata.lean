/-
All that is extracted from a document: data types, models and the service.
-/
import Typewright.Extraction.Run
import Typewright.Service.Extract

namespace Typewright

/-- What is extracted from a document. -/
structure Extraction where
  dataTypes : List DataType := []
  models : List Model := []
  warnings : List Warning := []
  service : Option Service := none

namespace Extraction

/-- The endpoints of an extraction. -/
def endpoints (e : Extraction) : List Endpoint := (e.service.map (·.endpoints)).getD []

/-- The metadata of an extraction. -/
def metadata (e : Extraction) : Metadata := ⟨e.dataTypes, e.models⟩

/-- The types that a name stands for after the passes: a model, or else a data type. -/
def State.byName (s : State) : List (String × DataType) :=
  let models := s.models.map fun m =>
    (m.name, ({ name := m.name, kind := .object, description := m.description } : DataType))
  models.reverse ++ (s.dataTypes.map fun t => (t.name, t)).reverse

/-- The extraction of the types and models of a document. -/
def types (document : Value) : Except Fault Extraction :=
  (run document).map fun s => { dataTypes := s.dataTypes, models := s.models, warnings := s.warnings }

/-- Adds the service to what the passes over a document have found. -/
def withService (document : Value) (s : State) : Except Failure Extraction :=
  match ((Service.ofDocument ⟨document, s.byName⟩).run.run s.warnings) with
  | (.ok service, warnings) =>
    .ok { dataTypes := s.dataTypes, models := s.models, warnings := warnings, service := some service }
  | (.error why, _) => .error why

/-- The extraction of a document. -/
def ofDocument (document : Value) (withEndpoints : Bool) : Except Failure Extraction :=
  match run document with
  | .error f => .error (.fault f)
  | .ok s =>
    if withEndpoints then withService document s
    else .ok { dataTypes := s.dataTypes, models := s.models, warnings := s.warnings }

end Extraction

end Typewright
