/-
What all generated C# files share.
-/
import Typewright.Emission.Bound
import Typewright.Emission.Error
import Typewright.Emission.Escape
import Typewright.Emission.Lines

namespace Typewright.Emission.CSharp

/-- Stops at a problem with a type. -/
def fail {α : Type} (problem : EmissionProblem) (typeName : String) : Except EmissionFailure α :=
  .error (.problem ⟨problem, typeName, .csharp⟩)

/-- The type of the values of a kind. -/
def typeOf? : Kind → Option String
  | .string => some "string"
  | .byte => some "string"
  | .int32 => some "int"
  | .int64 => some "long"
  | .float32 => some "float"
  | .float64 => some "double"
  | .decimal => some "decimal"
  | .boolean => some "bool"
  | .datetime => some "DateTime"
  | .object => none

/-- The type of the values of a data type. -/
def typeOf (t : DataType) : Except EmissionFailure String :=
  match typeOf? t.kind with
  | some s => .ok s
  | none => fail (.notPrimitive t.kind) t.name

/-- Whether the values of a kind are held in place, so that a question mark makes another type. -/
def isValueKind (k : Kind) : Bool := k != .string && k != .byte && k != .object

/-- The namespaces that a file uses: its own ones, then those of the options. -/
def usings (o : Options) (own : List String) : List String :=
  own ++ o.imports.filter fun u => !own.contains u

/-- The start of a file: the header, then the namespaces that it uses. -/
def opening (o : Options) (name : String) (used : List String) : List String :=
  spaced (header .csharp o name) ++ spaced (used.map fun u => "using " ++ u ++ ";")

/-- The namespace of the support library that generated files use. -/
def supportNamespace : String := "Validgen.Runtime"

/-- Lines of documentation, behind an indentation. -/
def summary (pad : String) (doc : List String) : List String :=
  if doc.isEmpty then []
  else [pad ++ "/// <summary>"] ++ doc.map (fun line => pad ++ "/// " ++ markup line) ++
    [pad ++ "/// </summary>"]

/-- Lines inside of the namespace of the options, if there is one. -/
def inNamespace (o : Options) (lines : List String) : List String :=
  match namespaceGiven o with
  | none => lines
  | some n => ["namespace " ++ n, "\x7b"] ++ indented "    " lines ++ ["\x7d"]

/-- The namespace of boundary types. -/
def dtoNamespace (o : Options) : String :=
  match namespaceGiven o with
  | some n => n ++ ".DTO"
  | none => "DTO"

/-- The boundary type of a model. -/
def dtoType (o : Options) (name : String) : String := dtoNamespace o ++ "." ++ name

end Typewright.Emission.CSharp
