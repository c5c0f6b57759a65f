/-
The files that are generated from metadata.

They come in a fixed order: primitives, models, boundary types, and what makes a package of them. No
two of them have the same path in lower case.
-/
import Typewright.Emission.CSharp.Dto
import Typewright.Emission.CSharp.Model
import Typewright.Emission.CSharp.Primitive
import Typewright.Emission.Python.Dto
import Typewright.Emission.Python.Model

namespace Typewright.Emission

/-- The path of a file in the output directory. -/
def pathOf (l : Language) (name : String) : String := name ++ "." ++ l.extension

/-- The path of the file of a boundary type. -/
def dtoPathOf (l : Language) (name : String) : String := "DTO/" ++ pathOf l name

/-- The file of a primitive type. -/
def primitive (l : Language) (o : Options) (t : DataType) : Except EmissionFailure Artifact :=
  if t.isReference then .error (.problem ⟨.reference, t.name, l⟩)
  else do
    let lines ← match l with
      | .csharp => CSharp.primitive o t
      | .python => Python.primitive o t
    return ⟨t.name, pathOf l t.name, render lines⟩

/-- The file of a model. -/
def model (l : Language) (o : Options) (m : Model) : Except EmissionFailure Artifact := do
  let lines ← match l with
    | .csharp => CSharp.model o m
    | .python => pure (Python.model o m)
  return ⟨m.name, pathOf l m.name, render lines⟩

/-- The file of a boundary type. -/
def dto (l : Language) (o : Options) (m : Model) : Except EmissionFailure Artifact := do
  let lines ← match l with
    | .csharp => CSharp.dto o m
    | .python => Python.dto o m
  return ⟨"DTO." ++ m.name, dtoPathOf l m.name, render lines⟩

/-- The files that make packages. -/
def packages (l : Language) (o : Options) (m : Metadata) : List Artifact :=
  match l with
  | .csharp => []
  | .python => Python.packages o m

/-- What decides whether two paths are the same. -/
def pathKey (a : Artifact) : String := Text.lower a.path

/-- Refuses files of which two have the same path; `seen` are the names of the files before, by
path. -/
def checkPaths (l : Language) : List (String × String) → List Artifact → Except EmissionFailure Unit
  | _, [] => .ok ()
  | seen, a :: r =>
    match seen.lookup (pathKey a) with
    | some first => .error (.problem ⟨.samePath first a.name a.path, a.name, l⟩)
    | none => checkPaths l ((pathKey a, a.name) :: seen) r

/-- All files that are generated from metadata. -/
def artifacts (l : Language) (o : Options) (m : Metadata) :
    Except EmissionFailure (List Artifact) := do
  let primitives ← m.dataTypes.mapM (primitive l o)
  let models ← m.models.mapM (model l o)
  let dtos ← m.models.mapM (dto l o)
  let all := primitives ++ models ++ dtos ++ packages l o m
  checkPaths l [] all
  return all

end Typewright.Emission
