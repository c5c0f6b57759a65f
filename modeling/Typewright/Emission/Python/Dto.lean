/-
Python classes of boundary types, and the files that make a package.
-/
import Typewright.Emission.Python.Basic

namespace Typewright.Emission.Python

/-- The annotation of a boundary field, without the mark of null. -/
def dtoHint (f : Field) : Except EmissionFailure String := do
  let base ← if f.dataType.isReference then pure f.dataType.name else typeOf f.dataType
  return if f.isCollection then "list[" ++ base ++ "]" else base

/-- The annotation of a boundary field. -/
def markedHint (o : Options) (f : Field) : Except EmissionFailure String := do
  let hint ← dtoHint f
  return if o.nullableMarkers then hint ++ " | None" else hint

/-- The boundary type that a field holds. -/
def nested? (f : Field) : Option String :=
  if f.dataType.isReference && f.dataType.name != "" then some f.dataType.name else none

/-- How a field is read from a decoded object. -/
def readingLine (f : Field) : String :=
  let how := match nested? f with
    | some n => ", dto=" ++ n
    | none => if f.dataType.kind == .datetime then ", is_datetime=True" else ""
  "            " ++ f.name ++ "=from_wire(data.get(" ++ Text.quoted f.wireName ++ ")" ++ how ++ "),"

/-- The lines of the file of the boundary type of a model. -/
def dto (o : Options) (m : Model) : Except EmissionFailure (List String) := do
  let hints ← m.fields.mapM (markedHint o)
  let all := Text.join " " hints
  let imports := (others m.name (m.fields.filterMap nested?)).map fun n => importLine o n true
  return opening o m.name ++
    [futureLine,
      "",
      "from dataclasses import dataclass"] ++
    onlyIf (Text.contains "datetime" all) ["from datetime import datetime"] ++
    onlyIf (Text.contains "Decimal" all) ["from decimal import Decimal"] ++
    ["from typing import TYPE_CHECKING, Any",
      "",
      "from validgen.runtime import from_wire, to_wire"] ++
    o.imports ++
    onlyIf (!imports.isEmpty)
      (["", "if TYPE_CHECKING:"] ++ imports.map (fun line => "    " ++ line)) ++
    ["",
      "",
      "@dataclass",
      "class " ++ m.name ++ ":"] ++
    classDocumentation (documentation o m.description) ++
    (m.fields.zip hints).flatMap (fun (f, hint) =>
      fieldDocumentation o f ++ ["    " ++ f.name ++ ": " ++ hint ++ " = None"]) ++
    ["",
      "    @classmethod",
      "    def from_dict(cls, data: dict[str, Any]) -> " ++ m.name ++ ":",
      "        \"\"\"Build from a decoded JSON object keyed by wire names.\"\"\""] ++
    imports.map (fun line => "        " ++ line) ++
    ["",
      "        return cls("] ++
    m.fields.map readingLine ++
    ["        )",
      "",
      "    def to_dict(self) -> dict[str, Any]:",
      "        \"\"\"Encode to a JSON-ready object keyed by wire names.\"\"\"",
      "        return \x7b"] ++
    m.fields.map (fun f =>
      "            " ++ Text.quoted f.wireName ++ ": to_wire(self." ++ f.name ++ "),") ++
    ["        \x7d"]

/-! ## Packages -/

/-- The lines of the file that makes a package of modules. -/
def package (o : Options) (description : String) (names : List String) : List String :=
  let doc := documentation o (some description)
  opening o "__init__" ++
  onlyIf (!doc.isEmpty) ["\"\"\"" ++ docstring (Text.join "\n" doc) ++ "\"\"\"", ""] ++
  names.map (fun n => "from ." ++ n ++ " import " ++ n) ++
  ["",
    "__all__ = ["] ++
  names.map (fun n => "    " ++ Text.quoted n ++ ",") ++
  ["]"]

/-- The files that make packages of generated code, if it has a namespace. -/
def packages (o : Options) (m : Metadata) : List Artifact :=
  match namespaceGiven o with
  | none => []
  | some n =>
    let models := m.models.map (·.name)
    let names := m.dataTypes.map (·.name) ++ models
    [⟨"__init__", "__init__.py", render (package o ("Validated types for " ++ n ++ ".") names)⟩,
      ⟨"DTO.__init__", "DTO/__init__.py",
        render (package o ("Boundary types for " ++ n ++ ".") models)⟩]

end Typewright.Emission.Python
