/-
What the operations of a document take and answer.
-/
import Typewright.Document.Section
import Typewright.Service.Basic
import Typewright.Service.Describe

namespace Typewright.Service

/-- What the operations of a document are worked out with: the document, and the types that are
known by name. -/
structure Scope where
  document : Value
  known : List (String × DataType) := []

/-- What faults and values give as work that notes warnings. -/
def checked {α : Type} : Except Fault α → Noting α
  | .ok a => return a
  | .error f => throw (.fault f)

/-- The mapping that a part of an operation is or refers to. -/
def dereferenced (document part : Value) : Noting Value :=
  match part.get? "$ref" with
  | none => return part
  | some ref =>
    match Document.resolve document ref with
    | .ok target => return target
    | .error broken => throw (.ofReference broken)

/-! ## Parameters -/

/-- The members of a list that may be missing. -/
def listOf (v : Value) : Noting (List Value) :=
  if v.isGiven then checked (Document.members v) else return []

/-- A parameter that is written out or referred to. -/
def parameter (document raw : Value) : Noting Value :=
  if raw.isMap then dereferenced document raw else throw (.ofProblem (.parameterShape raw))

/-- What two parameters have in common if the later one replaces the earlier one: name and
place. -/
def parameterKey (p : Value) : Value :=
  .tuple [(p.get? "name").getD (.text ""), (p.get? "in").getD (.text "")]

/-- The parameters of an operation: those of its path, overridden by its own. -/
def mergedParameters (document pathItem operation : Value) : Noting (List Value) := do
  let shared ← listOf (pathItem.get "parameters")
  let own ← listOf (operation.get "parameters")
  let merged ← (shared ++ own).foldlM
    (fun (done : List (Value × Value)) raw => do
      let p ← parameter document raw
      let key := parameterKey p
      if key.keyFault?.isSome then throw (.fault .type)
      else return Value.insert key p done) []
  return merged.map (·.2)

/-- The input that a parameter gives, if it is one. -/
def parameterInput (scope : Scope) (endpoint : String) (p : Value) : Noting (Option Input) := do
  let written := p.get "name"
  let name := if written.isNull then none else some written.plain
  match name.filter (· != ""), Place.ofParameter? (p.get "in") with
  | some name, some place =>
    let declared := p.get "schema"
    let schema := if declared.isGiven then declared else .record [("type", .text "string")]
    match ← describe scope.document scope.known schema (Name.pascal endpoint ++ Name.pascal name) with
    | none => return none
    | some type =>
      return some {
        name := name
        dataType := type
        place := place
        isRequired := (p.get "required").isGiven || place == .path
        description := Schema.description? p
        default := Schema.defaultOf schema type.kind }
  | _, _ =>
    note (.parameterPlace endpoint name)
    return none

/-! ## Bodies -/

/-- The schema of a body: that of its JSON content, or of its first content. -/
def bodySchema (body : Value) : Except Fault Value := do
  let content ← Document.sectionOf body "content"
  match content with
  | .map entries =>
    let json := content.get "application/json"
    let media := if json.isGiven then json else ((entries.head?).map (·.2)).getD .null
    return media.get "schema"
  | _ => throw .attribute

/-- The input that the body of a request gives, if there is one. -/
def bodyInput (scope : Scope) (endpoint : String) (operation : Value) : Noting (Option Input) := do
  let body ← dereferenced scope.document (operation.get "requestBody")
  if !body.isMap then return none
  else
    let schema ← checked (bodySchema body)
    match ← describe scope.document scope.known schema (Name.pascal endpoint ++ "Body") with
    | none => return none
    | some type =>
      return some {
        name := "body"
        dataType := type
        place := .body
        isRequired := (body.get "required").isGiven
        description := Schema.description? body }

/-- The inputs of an operation: its parameters, then its body. -/
def inputs (scope : Scope) (endpoint : String) (pathItem operation : Value) :
    Noting (List Input) := do
  let parameters ← mergedParameters scope.document pathItem operation
  let found ← parameters.mapM (parameterInput scope endpoint)
  let body ← bodyInput scope endpoint operation
  return found.filterMap id ++ body.toList

/-- The output that a response gives, if it is one. -/
def output (scope : Scope) (endpoint : String) (status response : Value) :
    Noting (Option Output) := do
  let response ← dereferenced scope.document response
  if !response.isMap then return none
  else
    let code := status.plain
    let schema ← checked (bodySchema response)
    let type ← describe scope.document scope.known schema (Name.pascal endpoint ++ code ++ "Response")
    return some {
      name := code
      outcome := .ofStatus code
      dataType := type
      description := Schema.description? response }

/-- The outputs of an operation, in document order. -/
def outputs (scope : Scope) (endpoint : String) (operation : Value) : Noting (List Output) := do
  match ← checked (Document.sectionOf operation "responses") with
  | .map entries =>
    let found ← entries.mapM fun e => output scope endpoint e.1 e.2
    return found.filterMap id
  | _ => throw (.fault .attribute)

end Typewright.Service
