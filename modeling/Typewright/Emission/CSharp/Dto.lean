/-
C# records of boundary types.
-/
import Typewright.Emission.CSharp.Basic

namespace Typewright.Emission.CSharp

/-- The type of a boundary property. Values that are held in place can always be null. -/
def dtoPropertyType (o : Options) (f : Field) : Except EmissionFailure String := do
  let base ← if f.dataType.isReference then pure f.dataType.name else typeOf f.dataType
  let item := if isValueKind f.dataType.kind || o.nullableMarkers then base ++ "?" else base
  if f.isCollection then return "List<" ++ item ++ ">" ++ (if o.nullableMarkers then "?" else "")
  else return item

/-- The lines of a boundary property. -/
def dtoPropertyLines (o : Options) (f : Field) (type : String) : List String :=
  summary "" (documentation o f.description) ++
  onlyIf (f.wireName != f.name) ["[JsonPropertyName(" ++ literal f.wireName ++ ")]"] ++
  ["public " ++ type ++ " " ++ f.name ++ " \x7b get; init; \x7d"]

/-- The namespaces that the boundary type of a model uses. -/
def dtoUsings (m : Model) : List String :=
  ["System.Text.Json.Serialization"] ++
    (if m.fields.any (·.isCollection) then ["System.Collections.Generic"] else []) ++
    (if m.fields.any (·.dataType.kind == .datetime) then ["System"] else [])

/-- The lines of the file of the boundary type of a model. -/
def dto (o : Options) (m : Model) : Except EmissionFailure (List String) := do
  let types ← m.fields.mapM (dtoPropertyType o)
  let properties := (m.fields.zip types).map fun (f, type) => dtoPropertyLines o f type
  return opening o m.name (usings o (dtoUsings m)) ++
    ["namespace " ++ dtoNamespace o, "\x7b"] ++
    indented "    "
      (summary "" (documentation o m.description) ++
      ["public record " ++ m.name, "\x7b"] ++
      indented "    " (separated properties) ++
      ["\x7d"]) ++
    ["\x7d"]

end Typewright.Emission.CSharp
