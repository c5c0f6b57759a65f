/-
Notices: what a run tells about its progress.
-/
import Typewright.Emission.Lines
import Typewright.Extraction.Metadata
import Typewright.Files.Path

namespace Typewright

/-- How important a notice is. -/
inductive Level where
  | debug
  | info
deriving Repr, DecidableEq

/-- Something that a run tells about its progress. -/
inductive Notice where
  | reading (source : String)
  | parsed (source : String) (version : Value)
  | faulty (schema : String)
  | extracted (types models endpoints warnings : Nat)
  | warned (w : Warning)
  | rendered (files : Nat) (l : Language)
  | generated (files types models : Nat) (l : Language)
  | wrote (path : Files.Path)
  | wroteAll (files : Nat) (directory : String)

namespace Notice

/-- How important a notice is. -/
def level : Notice → Level
  | .reading _ => .info
  | .generated .. => .info
  | .wroteAll .. => .info
  | _ => .debug

/-- A notice in words. -/
def message : Notice → String
  | .reading source => "Reading " ++ source
  | .parsed source version => "Parsed " ++ source ++ " (OpenAPI " ++ version.plain ++ ")"
  | .faulty schema => "Unexpected failure extracting " ++ Text.quoted schema
  | .extracted types models endpoints warnings =>
    "Extracted " ++ Nat.repr types ++ " data types, " ++ Nat.repr models ++ " models, " ++
      Nat.repr endpoints ++ " endpoints (" ++ Nat.repr warnings ++ " warnings)"
  | .warned w => "Extraction warning: " ++ w.message
  | .rendered files l => "Rendered " ++ Nat.repr files ++ " artifacts for " ++ l.displayName
  | .generated files types models l =>
    "Generated " ++ Nat.repr files ++ " artifacts (" ++ Nat.repr types ++ " data types, " ++
      Nat.repr models ++ " models) for " ++ l.displayName
  | .wrote path => "Wrote " ++ path.text
  | .wroteAll files directory => "Wrote " ++ Nat.repr files ++ " files to " ++ directory

/-- The notices of the passes over the schemas of a document, one for each schema that met a fault. -/
def ofPasses (passes : List Extraction.State) : List Notice :=
  passes.flatMap fun s => s.warnings.filterMap fun
    | .failed schema (.fault _) => some (faulty schema)
    | _ => none

/-- The notices of an extraction that succeeded. -/
def ofExtraction (e : Extraction) : List Notice :=
  extracted e.dataTypes.length e.models.length e.endpoints.length e.warnings.length ::
    e.warnings.map warned

end Notice

end Typewright
