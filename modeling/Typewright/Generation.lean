/-
Generation of code from a document: extraction, refinement and emission after each other.
-/
import Typewright.Emission.Artifacts
import Typewright.Extraction.Metadata
import Typewright.Refinement
import Typewright.Store

namespace Typewright

/-- What a document gives for a language: what was extracted from it, the refined metadata, and the
files, unless they cannot be generated. -/
structure Generation where
  extraction : Extraction
  metadata : Metadata
  artifacts : Except EmissionFailure (List Artifact)

namespace Generation

/-- What an extraction gives for a language when its metadata are refined in some way. -/
def refined (l : Language) (o : Options) (refine : Metadata → Metadata) (e : Extraction) :
    Generation :=
  let m := refine e.metadata
  ⟨e, m, Emission.artifacts l o m⟩

/-- What an extraction gives for a language; without a refiner that of the language is used. -/
def ofExtraction (l : Language) (o : Options) (refiner : Option Refiner) : Extraction → Generation :=
  refined l o (refiner.getD [l.style]).apply

/-- What a document gives for a language. -/
def ofDocument (document : Value) (l : Language) (o : Options) (refiner : Option Refiner) :
    Except Failure Generation :=
  (Extraction.ofDocument document true).map (ofExtraction l o refiner)

/-- A store that the refined metadata are registered in. -/
def registerIn (g : Generation) (s : Store) : Store := s.register g.metadata

end Generation

end Typewright
