/-
Refinement: giving types and fields the names that a language wants.

A style says how names are spelled and which are reserved. Types and models are renamed one by
one; the fields of a model are kept apart by numbers. Everything else is kept, the names of fields on
the wire above all.
-/
import Typewright.Metadata.Basic
import Typewright.Name.Case
import Typewright.Name.Unique
import Typewright.Target.Reserved

namespace Typewright

/-- How the names of types and fields are written. -/
structure Style where
  typeCase : String → String
  fieldCase : String → String
  reservedTypes : List String := []
  reservedFields : List String := []

namespace Style

/-- A name with an underscore at its end if it is reserved. -/
def avoid (reserved : List String) (name : String) : String :=
  if reserved.contains name then name ++ "_" else name

/-- The name of a type in a style. -/
def typeName (s : Style) (name : String) : String := avoid s.reservedTypes (s.typeCase name)

/-- The name of a field in a style, not yet kept apart from others. -/
def fieldName (s : Style) (name : String) : String := avoid s.reservedFields (s.fieldCase name)

/-! ## Renaming -/

/-- A data type with its name in a style. -/
def refineType (s : Style) (t : DataType) : DataType := { t with name := s.typeName t.name }

/-- A field under a new name, with the names of its types in a style. -/
def refineField (s : Style) (name : String) (f : Field) : Field :=
  { f with
    name := name
    dataType := s.refineType f.dataType
    element := f.element.map s.refineType }.withWireName

/-- The names of the fields of a model in a style. -/
def fieldNames (s : Style) (fields : List Field) : List String :=
  Name.freshAll [] (fields.map fun f => s.fieldName f.name)

/-- A model with its names in a style. -/
def refineModel (s : Style) (m : Model) : Model :=
  { m with
    name := s.typeName m.name
    fields := (s.fieldNames m.fields).zipWith s.refineField m.fields }

/-- Metadata with all names in a style. -/
def refine (s : Style) (m : Metadata) : Metadata :=
  ⟨m.dataTypes.map s.refineType, m.models.map s.refineModel⟩

/-! ## Whether anything is renamed -/

/-- Whether a data type keeps its name. -/
def keepsType (s : Style) (t : DataType) : Bool := s.typeName t.name == t.name

/-- Whether a field keeps its names under the name that it gets. -/
def keepsField (s : Style) (name : String) (f : Field) : Bool :=
  name == f.name && s.keepsType f.dataType && f.element.all s.keepsType

/-- Whether a model keeps its names. -/
def keepsModel (s : Style) (m : Model) : Bool :=
  s.typeName m.name == m.name &&
    ((s.fieldNames m.fields).zipWith s.keepsField m.fields).all fun kept => kept

/-- Whether metadata keep all their names in a style. -/
def keeps (s : Style) (m : Metadata) : Bool :=
  m.dataTypes.all s.keepsType && m.models.all s.keepsModel

end Style

/-- The style of a language. -/
def Language.style : Language → Style
  | .csharp => ⟨Name.pascal, Name.pascal, Language.csharp.reservedTypes, Language.csharp.reservedFields⟩
  | .python => ⟨Name.pascal, Name.snake, Language.python.reservedTypes, Language.python.reservedFields⟩

/-- What is done to metadata before code is generated: renaming in some styles, one after the
other. -/
abbrev Refiner := List Style

namespace Refiner

/-- Metadata after each style in turn. -/
def apply (r : Refiner) (m : Metadata) : Metadata := r.foldl (fun m s => s.refine m) m

/-- Whether no style renames anything. -/
def keeps : Refiner → Metadata → Bool
  | [], _ => true
  | s :: r, m => s.keeps m && keeps r (s.refine m)

end Refiner

end Typewright
