/-
Services from documents.

Each operation of each path becomes an endpoint. Paths and names of endpoints are kept apart: by
the method first, and by numbers where that is not enough.
-/
import Typewright.Name.Operation
import Typewright.Name.Unique
import Typewright.Service.Parts

namespace Typewright.Service

/-! ## Keeping names apart -/

/-- Names that have been used before with the method of their endpoint; `seen` are those so far. -/
def withMethods (separator : String) (seen : List String) :
    List (String × Method) → List String
  | [] => []
  | (name, method) :: r =>
    let name := if seen.contains name then name ++ separator ++ method.name else name
    name :: withMethods separator (name :: seen) r

/-- Names that differ from each other, one for each name in turn. -/
def keptApart (separator : String) (names : List (String × Method)) : List String :=
  Name.freshAll [] (withMethods separator [] names)

/-- Endpoints whose paths and names differ. -/
def distinct (endpoints : List Endpoint) : List Endpoint :=
  let paths := keptApart ":" (endpoints.map fun e => (e.path, e.method))
  let names := keptApart "_" (endpoints.map fun e => (e.name, e.method))
  (endpoints.zip (paths.zip names)).map fun (e, path, name) => { e with path := path, name := name }

/-! ## Operations -/

/-- The own name of an operation: its identifier, or one made from its method and path. -/
def operationName (method : Method) (httpPath operation : Value) : Except Fault String :=
  let identifier := operation.get "operationId"
  if identifier.isGiven then .ok identifier.plain
  else match httpPath with
    | .text path => .ok (Name.operation method.name path)
    | .bytes _ => .error .type
    | _ => .error .attribute

/-- The description of an operation, or its summary. -/
def operationDescription (operation : Value) : Value :=
  match Schema.description? operation with
  | some d => .text d
  | none =>
    let summary := operation.get "summary"
    if summary.isGiven then summary else .null

/-- The endpoint of an operation; one that fails is noted. -/
def endpoint (scope : Scope) (secured : Bool) (httpPath pathItem : Value) (method : Method)
    (operation : Value) : Noting (Option Endpoint) := do
  let name ← checked (operationName method httpPath operation)
  let parts : Noting (Option (List Input × List Output)) := do
    let ins ← inputs scope name pathItem operation
    let outs ← outputs scope name operation
    return some (ins, outs)
  let found ← tryCatch parts fun
    | .fault f => throw (.fault f)
    | why => do
      note (.endpointFailed method.capitals httpPath.plain why)
      return none
  match found with
  | none => return none
  | some (ins, outs) =>
    let security := operation.get "security"
    let tags ← listOf (operation.get "tags")
    return some {
      name := name
      path := httpPath.plain ++ ":" ++ method.intent.name
      method := method
      httpPath := httpPath
      requiresAuthentication := if security.isNull then secured else security.isGiven
      isDeprecated := (operation.get "deprecated").isGiven
      tags := tags.map Value.plain
      inputs := ins
      outputs := outs
      description := operationDescription operation }

/-- The operations of a path, each with its method. -/
def operations (pathItem : Value) : List (Method × Value) :=
  Method.all.filterMap fun m => ((pathItem.get? m.name).filter Value.isMap).map fun o => (m, o)

/-- The endpoints of a document, in document order. -/
def endpointsOf (scope : Scope) : Noting (List Endpoint) := do
  let secured := (← checked (Document.member scope.document "security")).isGiven
  let paths ← checked (Document.paths scope.document)
  let found ← (paths.flatMap fun (httpPath, item) =>
      (operations item).map fun (m, o) => (httpPath, item, m, o)).mapM
    fun (httpPath, item, m, o) => endpoint scope secured httpPath item m o
  return distinct (found.filterMap id)

/-- The service of a document. -/
def ofDocument (scope : Scope) : Noting Service := do
  let info ← checked (Document.sectionOf scope.document "info")
  let title ← checked (Document.member info "title")
  let version ← checked (Document.member info "version")
  let found ← endpointsOf scope
  return {
    name := if title.isGiven then title.plain else "Service"
    version := if version.isGiven then version.plain else "unknown"
    description := Schema.description? info
    endpoints := found }

end Typewright.Service
