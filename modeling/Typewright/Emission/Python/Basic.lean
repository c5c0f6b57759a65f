/-
What all generated Python files share.
-/
import Typewright.Emission.Bound
import Typewright.Emission.Error
import Typewright.Emission.Escape
import Typewright.Emission.Lines

namespace Typewright.Emission.Python

/-- Stops at a problem with a type. -/
def fail {α : Type} (problem : EmissionProblem) (typeName : String) : Except EmissionFailure α :=
  .error (.problem ⟨problem, typeName, .python⟩)

/-- The type of the values of a kind. -/
def typeOf? : Kind → Option String
  | .string => some "str"
  | .byte => some "str"
  | .int32 => some "int"
  | .int64 => some "int"
  | .float32 => some "float"
  | .float64 => some "float"
  | .decimal => some "Decimal"
  | .boolean => some "bool"
  | .datetime => some "datetime"
  | .object => none

/-- The type of the values of a data type. -/
def typeOf (t : DataType) : Except EmissionFailure String :=
  match typeOf? t.kind with
  | some s => .ok s
  | none => fail (.notPrimitive t.kind) t.name

/-- A value as a literal. A number for a decimal type is a decimal of its digits. -/
def valueLiteral (kind : Option Kind) (v : Value) : String :=
  match v with
  | .num (.decimal d) => "Decimal(" ++ Text.quoted d.text ++ ")"
  | .num n => if kind == some .decimal then "Decimal(" ++ Text.quoted n.text ++ ")" else n.text
  | v => v.display

/-- The start of a file. -/
def opening (o : Options) (name : String) : List String :=
  spaced (header .python o name)

/-- The line that makes annotations names only. -/
def futureLine : String := "from __future__ import annotations"

/-- The lines of a description of a class, with an empty line after them. -/
def classDocumentation (doc : List String) : List String :=
  if doc.isEmpty then []
  else ["    \"\"\"" ++ docstring (Text.join "\n    " doc) ++ "\"\"\"", ""]

/-- The comment lines of the description of a field. -/
def fieldDocumentation (o : Options) (f : Field) : List String :=
  (documentation o f.description).map fun line => "    #: " ++ line

/-- The line that imports a name from its own module. -/
def importLine (o : Options) (name : String) (dto : Bool) : String :=
  let path := (namespaceGiven o).toList ++ (if dto then ["DTO"] else []) ++ [name]
  "from " ++ Text.join "." path ++ " import " ++ name

/-- Names without repetitions, at the places of their first occurrences, and without one of them. -/
def others (own : String) (names : List String) : List String :=
  names.foldl (fun done n => if n == own || done.contains n then done else done ++ [n]) []

end Typewright.Emission.Python
