/-
C# records of validated models.
-/
import Typewright.Emission.CSharp.Basic
import Typewright.Target.Reserved
import Typewright.Text.Case

namespace Typewright.Emission.CSharp

/-! ## Fields -/

/-- The names that the methods of a model use for themselves. -/
def templateLocals : List String := ["dto", "valid", "validated", "item", "element", "model"]

/-- A name with its first character in lower case. -/
def lowerFirst (name : String) : String :=
  match name.toList with
  | [] => ""
  | c :: r => String.ofList (Text.lowerChars [c] ++ r)

/-- The local variable of a field. -/
def localName (name : String) : String :=
  let l := lowerFirst name
  if Language.csharp.keywords.contains l || templateLocals.contains l then l ++ "Value" else l

/-- The type of the property of a field, without the mark of null. -/
def propertyType (f : Field) : String :=
  if f.isCollection then "IReadOnlyList<" ++ f.dataType.name ++ ">" else f.dataType.name

/-- What the property of a field is set to. -/
def assigned (f : Field) : String :=
  let l := localName f.name
  if f.isNullable then l
  else if f.isCollection || f.dataType.isReference then l ++ "!"
  else l ++ ".Value"

/-- How the property of a field is given back. -/
def givenBack (f : Field) : Except EmissionFailure String := do
  let type := f.dataType.name
  let access := "model." ++ f.name
  if f.isCollection then
    let project ← if f.dataType.isReference then pure (type ++ ".ToDTO(item)")
      else (typeOf f.dataType).map fun t => "(" ++ t ++ "?)item.Value"
    return access ++ (if f.isNullable then "?." else ".") ++ "Select(item => " ++ project ++
      ").ToList()"
  else if f.dataType.isReference then
    let made := type ++ ".ToDTO(" ++ access ++ ")"
    return if f.isNullable then access ++ " is null ? null : " ++ made else made
  else return access ++ (if f.isNullable then "?.Value" else ".Value")

/-- The lines of the property of a field. -/
def propertyLines (o : Options) (f : Field) : List String :=
  summary "    " (documentation o f.description) ++
  ["    public " ++ (if f.isNullable then "" else "required ") ++ propertyType f ++
      (if f.isNullable then "?" else "") ++ " " ++ f.name ++ " \x7b get; init; \x7d",
    ""]

/-- The lines that validate a field. -/
def validationLines (f : Field) : List String :=
  let type := f.dataType.name
  let l := localName f.name
  let given := ["        if (dto." ++ f.name ++ " is not null)", "        \x7b"]
  ["",
    "        " ++ (if f.isCollection then "List<" ++ type ++ ">" else type) ++ "? " ++ l ++ " = null;"] ++
  given ++
  (if f.isCollection then
    ["            " ++ l ++ " = new List<" ++ type ++ ">();",
      "            foreach (var item in dto." ++ f.name ++ ")",
      "            \x7b",
      "                if (item is not null && " ++ type ++ ".TryCreate(item, out var element))",
      "                \x7b",
      "                    " ++ l ++ ".Add(element" ++ (if f.dataType.isReference then "!" else "") ++ ");",
      "                \x7d",
      "                else",
      "                \x7b",
      "                    valid = false;",
      "                \x7d",
      "            \x7d"]
  else if f.dataType.isReference then
    ["            valid &= " ++ type ++ ".TryCreate(dto." ++ f.name ++ ", out " ++ l ++ ");"]
  else
    ["            valid &= " ++ type ++ ".TryCreate(dto." ++ f.name ++ ", out var " ++ l ++ "Item);",
      "            " ++ l ++ " = " ++ l ++ "Item;"]) ++
  ["        \x7d"] ++
  onlyIf (!f.isNullable)
    ["        else",
      "        \x7b",
      "            valid = false;",
      "        \x7d"]

/-! ## The record -/

/-- The namespaces that the record of a model uses. -/
def modelUsings (m : Model) : List String :=
  [supportNamespace] ++
    (if m.fields.any (·.isCollection) then ["System.Collections.Generic", "System.Linq"] else [])

/-- The lines of the record of a model, outside of any namespace. -/
def modelLines (o : Options) (m : Model) (back : List String) : List String :=
  let name := m.name
  let dto := dtoType o name
  summary "" (documentation o m.description) ++
  onlyIf o.annotations ["[Validated(typeof(" ++ dto ++ "))]"] ++
  ["public sealed record " ++ name, "\x7b"] ++
  m.fields.flatMap (propertyLines o) ++
  ["    public static bool TryCreate(" ++ dto ++ "? dto, out " ++ name ++ "? validated)",
    "    \x7b",
    "        validated = default;",
    "        if (dto is null)",
    "        \x7b",
    "            return false;",
    "        \x7d",
    "",
    "        var valid = true;"] ++
  m.fields.flatMap validationLines ++
  ["",
    "        if (!valid)",
    "        \x7b",
    "            return false;",
    "        \x7d",
    "",
    "        validated = new " ++ name,
    "        \x7b"] ++
  m.fields.map (fun f => "            " ++ f.name ++ " = " ++ assigned f ++ ",") ++
  ["        \x7d;",
    "        return true;",
    "    \x7d",
    ""] ++
  onlyIf o.annotations ["    [Validation]"] ++
  ["    public static " ++ name ++ " Create(" ++ dto ++ "? dto)",
    "    \x7b",
    "        if (TryCreate(dto, out var validated))",
    "        \x7b",
    "            return validated!;",
    "        \x7d",
    "",
    "        throw new ValidationException<" ++ dto ++ "?, " ++ name ++ ">(dto);",
    "    \x7d",
    "",
    "    public static " ++ dto ++ " ToDTO(" ++ name ++ " model)",
    "    \x7b",
    "        return new " ++ dto,
    "        \x7b"] ++
  (m.fields.zip back).map (fun (f, b) => "            " ++ f.name ++ " = " ++ b ++ ",") ++
  ["        \x7d;",
    "    \x7d",
    "\x7d"]

/-- The lines of the file of a model. -/
def model (o : Options) (m : Model) : Except EmissionFailure (List String) := do
  let back ← m.fields.mapM givenBack
  return opening o m.name (usings o (modelUsings m)) ++ inNamespace o (modelLines o m back)

end Typewright.Emission.CSharp
