/-
Extraction of data types and models from the component schemas of a document.

The schemas are gone through in document order. One that fails is noted and leaves nothing behind.
A model that fails makes the properties that refer to it unavailable, which can make more models
fail; so the schemas are gone through again, until no further model fails.
-/
import Typewright.Document.Section
import Typewright.Extraction.Model

namespace Typewright.Extraction

/-- Extracts a named schema. A model counts as failed until it has succeeded. -/
def namedSchema (scope : Scope) (name : String) (schema : Value) : Extracting Unit := do
  if Schema.isSimple schema then
    let t ← namedType name schema
    modify (·.emit t)
  else if ← ofExcept (Schema.isComplex scope.document schema) then
    modify fun s =>
      { s with failed := if s.failed.contains name then s.failed else s.failed ++ [name] }
    let m ← model scope name schema
    modify fun s => { s with pendingModels := s.pendingModels ++ [m] }
    modify (·.commit)
    modify fun s => { s with failed := s.failed.filter (· != name) }
  else if Schema.isPlain schema then warn (.plainScalar name)
  else warn (.untyped name)

/-- The state after a named schema. -/
def step (scope : Scope) (s : State) (name : String) (schema : Value) : State :=
  if !schema.isMap then { s with warnings := s.warnings ++ [.notSchema name] }
  else match (namedSchema scope name schema).run.run s with
    | (.ok (), s') => s'
    | (.error why, s') =>
      { s' with
        warnings := s'.warnings ++ [.failed name why]
        pendingTypes := []
        pendingModels := [] }

/-- One pass over the schemas, with some models unavailable. -/
def pass (document : Value) (schemas : List (String × Value)) (unavailable : List String) : State :=
  let scope : Scope := ⟨document, unavailable⟩
  schemas.foldl (fun s e => step scope s e.1 e.2) { taken := schemas.map (·.1) }

/-- Names with more names added, each once. -/
def union (names more : List String) : List String :=
  names ++ more.filter fun n => !names.contains n

/-- The passes until no further model fails, of which there are at most a given number. -/
def passesFrom (document : Value) (schemas : List (String × Value)) :
    Nat → List String → List State
  | 0, _ => []
  | more + 1, unavailable =>
    let s := pass document schemas unavailable
    if s.failed.all unavailable.contains then [s]
    else s :: passesFrom document schemas more (union unavailable s.failed)

/-- The passes over the schemas of a document; the last one gives the result. -/
def passes (document : Value) : Except Fault (List State) := do
  let schemas ← Document.schemas document
  return passesFrom document schemas (schemas.length + 1) []

/-- What a list of passes gives. -/
def lastOf (passes : List State) : State := passes.getLast?.getD {}

/-- The extraction of a document. -/
def run (document : Value) : Except Fault State := (passes document).map lastOf

end Typewright.Extraction
