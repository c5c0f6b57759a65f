/-
Reading documents.

A text that starts with an opening brace is JSON, any other one YAML. What was read has to have the
outline of a document; all that is wrong with the outline is found at once.
-/
import Typewright.Document.Issue
import Typewright.Json.Reader
import Typewright.Yaml.Content

namespace Typewright.Document

/-- Why there is no document. -/
inductive ReadFailure where
  | rejected (r : Rejection)
  | fault (f : Fault)

/-! ## Texts -/

/-- Whether a text is read as JSON. -/
def isJson (text : String) : Bool := (text.toList.dropWhile Text.isBlank).head? == some '\x7b'

/-- The value that a text in JSON writes. -/
def readJson (source text : String) : Except ReadFailure Value :=
  match Json.read text with
  | .ok v => .ok v
  | .error (.malformed e) => .error (.rejected ⟨source, .json, [.json e]⟩)
  | .error .longNumeral => .error (.fault .value)
  | .error .tooDeep => .error (.fault .nesting)

/-- The value that a text in YAML writes. -/
def readYaml (source text : String) : Except ReadFailure Value :=
  match Yaml.read text with
  | .ok v => .ok v
  | .error (.error e) => .error (.rejected ⟨source, .yaml, [.yaml e]⟩)
  | .error (.character c offset) => .error (.rejected ⟨source, .yaml, [.character c offset]⟩)
  | .error (.fault f) => .error (.fault f)

/-- The value that a text writes. -/
def readValue (source text : String) : Except ReadFailure Value :=
  if isJson text then readJson source text else readYaml source text

/-! ## Outlines -/

/-- What is wrong with the version of a document. -/
def versionIssues (document : Value) : List Issue :=
  match document.get "openapi" with
  | .null => if document.has "swagger" then [.swagger] else [.noVersion]
  | v => if "3.".toList.isPrefixOf v.plain.toList then [] else [.version v]

/-- An issue unless a value is null or a mapping. -/
def issueUnlessMap (v : Value) (i : Issue) : List Issue := if v.isNull || v.isMap then [] else [i]

/-- What is wrong with the schemas of a document. -/
def schemasIssues : Value → List Issue
  | .map entries => (entries.filter fun e => !e.2.isMap).map fun e => .schema e.1
  | v => issueUnlessMap v .schemas

/-- What is wrong with the components of a document. -/
def componentsIssues (components : Value) : List Issue :=
  issueUnlessMap components .components ++ schemasIssues (components.get "schemas")

/-- All that is wrong with the outline of a document. -/
def issues (document : Value) : List Issue :=
  if !document.isMap then [.notMapping]
  else
    versionIssues document ++
      (if (document.get "info").isMap then [] else [.info]) ++
      issueUnlessMap (document.get "paths") .paths ++
      componentsIssues (document.get "components")

/-- Reads a document; `source` names where the text comes from. -/
def read (source text : String) : Except ReadFailure Value := do
  let document ← readValue source text
  match issues document with
  | [] => .ok document
  | found => .error (.rejected ⟨source, .shape, found⟩)

/-- The document that bytes write. -/
def readBytes (source : String) (bytes : List UInt8) : Except ReadFailure Value :=
  match Text.Utf8.decode bytes with
  | .ok text => read source (String.ofList text)
  | .error e => .error (.rejected ⟨source, .encoding, [.encoding e]⟩)

end Typewright.Document
