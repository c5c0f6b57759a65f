/-
Writing generated files below an output directory.
-/
import Typewright.Emission.Error
import Typewright.Emission.Lines
import Typewright.Host

namespace Typewright

/-- Why a file was not written: its path leads out of the output directory, or the host failed. -/
inductive WriteFailure where
  | outside (e : EmissionError)
  | file (f : Files.Failure)

namespace Emission

/-- The path of a file below an output directory, unless it could lead out of it. -/
def pathBelow? (directory : Files.Path) (path : String) : Option Files.Path :=
  let p := Files.Path.ofText path
  if p.isAbsolute || p.climbs then none else some (directory.join p.names)

/-- Writes a file below an output directory, and tells where. -/
def write {m : Type → Type} [Monad m] [Host m] (directory : Files.Path) (l : Language)
    (a : Artifact) : m (Except WriteFailure Files.Path) := do
  match pathBelow? directory a.path with
  | none => return .error (.outside ⟨.outside a.path, a.name, l⟩)
  | some p =>
    match ← Host.write p a.content.toUTF8.toList with
    | .error f => return .error (.file f)
    | .ok () =>
      Host.note (.wrote p)
      return .ok p

/-- Writes files below an output directory in turn, up to the first that fails. -/
def writeAll {m : Type → Type} [Monad m] [Host m] (directory : Files.Path) (l : Language) :
    List Artifact → m (Except WriteFailure (List Files.Path))
  | [] => return .ok []
  | a :: r => do
    match ← write directory l a with
    | .error f => return .error f
    | .ok p =>
      match ← writeAll directory l r with
      | .error f => return .error f
      | .ok ps => return .ok (p :: ps)

end Emission

end Typewright
