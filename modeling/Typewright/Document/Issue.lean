/-
Issues: what keeps a text from being a document that can be worked on.
-/
import Typewright.Json.Error
import Typewright.Text.Utf8
import Typewright.Value.Text
import Typewright.Yaml.Error

namespace Typewright.Document

/-- What is wrong with a text or with the document that it holds. -/
inductive Issue where
  | encoding (e : Text.Utf8.Error)
  | json (e : Json.SyntaxError)
  | yaml (e : Yaml.Error)
  | character (c : Char) (offset : Nat)
  | notMapping
  | swagger
  | noVersion
  | version (v : Value)
  | info
  | paths
  | components
  | schemas
  | schema (name : Value)

namespace Issue

/-- An issue in words. -/
def message : Issue → String
  | .encoding e =>
    "Invalid UTF-8 at byte offset " ++ Nat.repr e.offset ++ ": " ++ e.reason.message
  | .json e => e.cause.message
  | .yaml e => e.problem.message
  | .character c offset => Yaml.characterMessage c offset
  | .notMapping => "Specification root must be a mapping"
  | .swagger => "Swagger 2.0 documents are not supported"
  | .noVersion => "Missing 'openapi' version field"
  | .version v => "Unsupported OpenAPI version '" ++ v.plain ++ "'"
  | .info => "Missing or invalid 'info' object"
  | .paths => "'paths' must be a mapping"
  | .components => "'components' must be a mapping"
  | .schemas => "'schemas' must be a mapping"
  | .schema name => "Schema '" ++ name.plain ++ "' must be a mapping"

/-- The path in the document to what is wrong; empty for an issue of the text. -/
def pointer : Issue → String
  | .notMapping => "#"
  | .swagger => "#/swagger"
  | .noVersion => "#/openapi"
  | .version _ => "#/openapi"
  | .info => "#/info"
  | .paths => "#/paths"
  | .components => "#/components"
  | .schemas => "#/components/schemas"
  | .schema name => "#/components/schemas/" ++ name.plain
  | _ => ""

/-- The position in the text of what is wrong. -/
def position : Issue → Option Text.Position
  | .json e => some e.position
  | .yaml e => some ⟨e.place.line + 1, e.place.column + 1⟩
  | _ => none

/-- Where the issue is, in words. -/
def location (i : Issue) : String :=
  Text.join " @ " ((if i.pointer == "" then [] else [i.pointer]) ++
    (i.position.map fun p =>
      "line " ++ Nat.repr p.line ++ ", column " ++ Nat.repr p.column).toList)

/-- An issue in words, with the place where it is. -/
def text (i : Issue) : String :=
  if i.location == "" then i.message else i.message ++ " (" ++ i.location ++ ")"

end Issue

/-- At what stage a text was refused as a document. -/
inductive Stage where
  | encoding
  | json
  | yaml
  | shape
deriving Repr, DecidableEq

/-- A text that is no document: where it comes from, at what stage it was refused, and all that is
wrong with it. -/
structure Rejection where
  source : String
  stage : Stage
  issues : List Issue

namespace Rejection

/-- What was refused, in words. -/
def headline (r : Rejection) : String :=
  match r.stage with
  | .encoding => "Cannot decode specification"
  | .json => "Invalid JSON in " ++ r.source
  | .yaml => "Invalid YAML in " ++ r.source
  | .shape => "Failed to parse OpenAPI specification from " ++ r.source

/-- A rejection in words. -/
def message (r : Rejection) : String :=
  r.headline ++ ": " ++ Text.join "; " (r.issues.map Issue.text)

end Rejection

end Typewright.Document
