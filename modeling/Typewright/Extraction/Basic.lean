/-
What is known in the course of an extraction.

The types and models of one named schema are kept apart until the schema has succeeded; then they
are emitted together.
-/
import Typewright.Name.Case
import Typewright.Name.Unique
import Typewright.Schema.Facets
import Typewright.Schema.Shape

namespace Typewright.Extraction

/-- What an extraction works on: a document, and the names of models that are known to fail. -/
structure Scope where
  document : Value
  unavailable : List String := []

/-- What an extraction has found so far. -/
structure State where
  warnings : List Warning := []
  dataTypes : List DataType := []
  models : List Model := []
  failed : List String := []
  known : List (String × DataType) := []
  taken : List String := []
  pendingTypes : List DataType := []
  pendingModels : List Model := []

/-- Work that may stop; what it has found by then stays. -/
abbrev Extracting := ExceptT Failure (StateM State)

/-- Work that only notes warnings, as a part of an extraction. -/
def noting {α : Type} (work : Noting α) : Extracting α := do
  let s ← get
  let (result, warnings) := work.run.run s.warnings
  set { s with warnings := warnings }
  match result with
  | .ok a => return a
  | .error why => throw why

/-- Notes a warning. -/
def warn (w : Warning) : Extracting Unit :=
  modify fun s => { s with warnings := s.warnings ++ [w] }

namespace State

/-- Whether a data type of a name has been emitted. -/
def isEmitted (s : State) (name : String) : Bool := s.dataTypes.any (·.name == name)

/-- The data types with one more, unless there is one of its name. -/
def emit (s : State) (t : DataType) : State :=
  if s.isEmitted t.name then s else { s with dataTypes := s.dataTypes ++ [t] }

/-- Emits what is pending. -/
def commit (s : State) : State :=
  let s' := s.pendingTypes.foldl emit s
  { s' with models := s'.models ++ s.pendingModels, pendingTypes := [], pendingModels := [] }

end State

/-- A name for an inline type that nothing else has. -/
def inlineName (hint : String) : Extracting String := do
  let name := Name.fresh (← get).taken (Name.pascal hint)
  modify fun s => { s with taken := name :: s.taken }
  return name

/-- The data type of a named scalar; each name is worked out once. -/
def namedType (name : String) (schema : Value) : Extracting DataType := do
  match (← get).known.lookup name with
  | some t => return t
  | none =>
    let t ← noting (Schema.scalarType name schema (Schema.kind schema))
    modify fun s => { s with known := (name, t) :: s.known }
    return t

/-- The reference of a schema, resolved. -/
def resolve (scope : Scope) (ref : Value) : Extracting Value :=
  match Document.resolve scope.document ref with
  | .ok target => return target
  | .error broken => throw (.ofReference broken)

/-- What an extraction of failures and values gives. -/
def ofExcept {α : Type} : Except Failure α → Extracting α
  | .ok a => return a
  | .error why => throw why

end Typewright.Extraction
