/-
The whole run for one document: read it, generate code from it, and write the files.

All files are generated before any is written, so a document that no code can be generated from
leaves the output directory as it was.
-/
import Typewright.Emission.Output
import Typewright.Generation
import Typewright.Source.Basic

namespace Typewright

/-- Why a run did not end well. -/
inductive RunFailure where
  | language (f : LanguageFailure)
  | load (f : LoadFailure)
  | extraction (f : Failure)
  | emission (f : EmissionFailure)
  | write (f : WriteFailure)

/-- What a run is asked to do. -/
structure Order where
  source : Source
  language : Value := .text "csharp"
  options : Options := {}
  outputDirectory : Option String := none
  refiner : Option Refiner := none
  write : Bool := true

namespace Order

/-- The directory that an order has files written to, if it does: its own, or else that of its
options; one without a name is none. -/
def destination (o : Order) : Option String :=
  if o.write then
    ((o.outputDirectory.filter (· != "")).or o.options.outputDirectory).filter (· != "")
  else none

end Order

/-- What a run has done. -/
structure Product where
  extraction : Extraction
  metadata : Metadata
  artifacts : List Artifact
  written : List Files.Path := []

namespace Pipeline

/-- Tells several things. -/
def noteAll {m : Type → Type} [Monad m] [Host m] (ns : List Notice) : m Unit := ns.forM Host.note

/-- Generates the files of a document whose metadata are refined in some way, and tells about it. -/
def generate {m : Type → Type} [Monad m] [Host m] (document : Value) (l : Language) (o : Options)
    (refine : Metadata → Metadata) : m (Except RunFailure Product) := do
  noteAll (Notice.ofPasses ((Extraction.passes document).toOption.getD []))
  match (Extraction.ofDocument document true).map (Generation.refined l o refine) with
  | .error f => return .error (.extraction f)
  | .ok g =>
    noteAll (Notice.ofExtraction g.extraction)
    match g.artifacts with
    | .error f => return .error (.emission f)
    | .ok artifacts =>
      let files := artifacts.length
      Host.note (.rendered files l)
      Host.note (.generated files g.metadata.dataTypes.length g.metadata.models.length l)
      return .ok ⟨g.extraction, g.metadata, artifacts, []⟩

/-- Writes the files of a product below a directory, and tells about it. -/
def write {m : Type → Type} [Monad m] [Host m] (directory : String) (l : Language) (p : Product) :
    m (Except RunFailure Product) := do
  match ← Emission.writeAll (.ofText directory) l p.artifacts with
  | .error f => return .error (.write f)
  | .ok paths =>
    Host.note (.wroteAll paths.length directory)
    return .ok { p with written := paths }

/-- Does what an order asks for, with the metadata refined for the language in some way, whatever
refiner the order names. -/
def runWith {m : Type → Type} [Monad m] [Host m] (refine : Language → Metadata → Metadata)
    (o : Order) : m (Except RunFailure Product) := do
  match Language.get o.language with
  | .error f => return .error (.language f)
  | .ok l =>
    Host.note (.reading o.source.name)
    match ← o.source.load with
    | .error f => return .error (.load f)
    | .ok document =>
      match ← generate document l o.options (refine l) with
      | .error f => return .error f
      | .ok product =>
        match o.destination with
        | none => return .ok product
        | some directory => write directory l product

/-- Does what an order asks for. -/
def run {m : Type → Type} [Monad m] [Host m] (o : Order) : m (Except RunFailure Product) :=
  runWith (fun l => (o.refiner.getD [l.style]).apply) o

end Pipeline

end Typewright
