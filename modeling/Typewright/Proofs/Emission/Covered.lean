/-
# Python code for every document

A document gives data types whose constraints apply to their kinds, and Python translates each
constraint that applies to a kind (`Python.translates_iff`).  The two tables agree, so no data type is
refused; only an integer whose numeral is too long to be written stops the emitter.  Where there is no
such integer, all files are rendered, and they are given unless two of them have one path
(`Generation.python_covers`).
-/
import Typewright.Proofs.Emission.Faults
import Typewright.Proofs.Extraction.Scalars
import Typewright.Proofs.Refinement.Renaming

namespace Typewright

/-- Whether the numbers of a constraint have texts. -/
def Constraint.hasTexts : Constraint → Bool
  | .length _ n => (Number.int n).hasText
  | .bound _ n _ => n.hasText
  | .allowed values => Value.haveTexts values
  | .pattern _ => true
  | .required => true

/-- Whether the numbers of a data type's constraints have texts. -/
def DataType.hasTexts (t : DataType) : Bool := t.constraints.all (·.hasTexts)

/-- Whether the numbers in metadata have texts. -/
def Metadata.hasTexts (m : Metadata) : Bool := m.dataTypes.all (·.hasTexts)

namespace Emission

/-! ## The two tables -/

section Tables

variable {k : Kind} {c : Constraint} {t : DataType} {f : Fault}

/-- Python translates what applies to a kind and has a text. -/
theorem Python.translates_iff (h : c.AppliesTo k) :
    Translates .python k c ↔ c.hasTexts = true := by
  cases c with
  | pattern regex => simp [translates_pattern, Constraint.hasTexts, show k.isTextual = true from h]
  | length side n => simp [translates_length, Constraint.hasTexts, show k.isTextual = true from h]
  | bound side n edge =>
      simp [translates_bound, Constraint.hasTexts, Python.writes_iff, show k.isNumeric = true from h]
  | required => simp [Translates.required, Constraint.hasTexts]
  | allowed values =>
      simp [translates_allowed, Constraint.hasTexts, haveTexts_iff, Python.expresses_iff]

/-- What applies to a kind and has no text stops Python. -/
theorem Python.stops_of_not_hasTexts (h : c.AppliesTo k) (htexts : ¬ c.hasTexts = true) :
    Stops .python k c .value := by
  cases c with
  | pattern regex => exact absurd rfl htexts
  | length side n => exact .length h htexts
  | bound side n edge => exact .bound h (Python.numberStops_iff.mpr ⟨htexts, rfl⟩)
  | required => exact absurd rfl htexts
  | allowed values =>
      refine .allowed (reaches_of_not_all (fun v _ hv => ?_) fun hall => htexts ?_)
      · exact Python.valueStops_iff.mpr ⟨fun h => hv (Python.expresses_iff.mpr h), rfl⟩
      · exact haveTexts_iff.mpr fun v hv => Python.expresses_iff.mp (hall v hv)

theorem Python.emits_iff (h : t.Coherent) : Emits .python t ↔ t.hasTexts = true := by
  rw [DataType.hasTexts, List.all_eq_true]
  constructor
  · intro he c hc
    exact (Python.translates_iff (h.applies c hc)).mp (he.translates c hc)
  · intro hall
    exact ⟨h.scalar, fun c hc => (Python.translates_iff (h.applies c hc)).mpr (hall c hc)⟩

theorem Python.typeStops_of_not_hasTexts (h : t.Coherent) (htexts : ¬ t.hasTexts = true) :
    TypeStops .python t .value := by
  refine ⟨h.scalar, reaches_of_not_all (fun c hc hno => ?_) fun hall => htexts ?_⟩
  · exact Python.stops_of_not_hasTexts (h.applies c hc) fun htext =>
      hno ((Python.translates_iff (h.applies c hc)).mpr htext)
  · exact (Python.emits_iff h).mp ⟨h.scalar, hall⟩

end Tables

/-! ## Files -/

section Files

variable {l : Language} {o : Options} {m : Metadata} {all : List Artifact}

theorem Python.rendered_of_coherent (hm : ∀ t ∈ m.dataTypes, t.Coherent) :
    (m.hasTexts = true → ∃ all, rendered .python o m = .ok all) ∧
      (m.hasTexts = false → rendered .python o m = .error (.fault .value)) := by
  have hends := @rendered_ends .python o m
  constructor
  · intro htexts
    have hall := List.all_eq_true.mp htexts
    exact hends.ok.mpr fun t ht => (Python.emits_iff (hm t ht)).mpr (hall t ht)
  · intro htexts
    refine (hends.fault .value).mpr (reaches_of_not_all (fun t ht hno => ?_) fun hall => ?_)
    · exact Python.typeStops_of_not_hasTexts (hm t ht) fun htext =>
        hno ((Python.emits_iff (hm t ht)).mpr htext)
    · have hfine : m.hasTexts = true :=
        List.all_eq_true.mpr fun t ht => (Python.emits_iff (hm t ht)).mp (hall t ht)
      rw [hfine] at htexts
      cases htexts

/-- Files that are rendered are given if their paths differ even in lower case, and otherwise two of
them are reported. -/
theorem artifacts_of_rendered (h : rendered l o m = .ok all) :
    ((all.map fun a => Text.lower a.path).Nodup → artifacts l o m = .ok all) ∧
      (¬ (all.map fun a => Text.lower a.path).Nodup → ∃ first, ∃ a ∈ all,
        artifacts l o m = .error (.problem ⟨.samePath first a.name a.path, a.name, l⟩)) := by
  rw [artifacts_eq, h]
  constructor
  · intro hnodup
    have hcheck : checkPaths l [] all = .ok () := checkPaths_of_nodup hnodup fun _ _ => rfl
    simp [hcheck, Except.map]
  · intro hsame
    cases hcheck : checkPaths l [] all with
    | ok _ => exact absurd (nodup_of_checkPaths hcheck) hsame
    | error x =>
        obtain ⟨first, a, ha, rfl⟩ := checkPaths_error hcheck
        exact ⟨first, a, ha, by simp [hcheck, Except.map]⟩

end Files

end Emission

/-! ## Documents -/

theorem Style.refine_coherent {s : Style} {m : Metadata} (h : ∀ t ∈ m.dataTypes, t.Coherent) :
    ∀ t ∈ (s.refine m).dataTypes, t.Coherent := by
  intro t ht
  obtain ⟨u, hu, rfl⟩ := List.mem_map.mp ht
  exact ⟨(h u hu).scalar, (h u hu).applies⟩

namespace Generation

variable {document : Value} {o : Options} {g : Generation}

/-- Python code is given for all that is extracted from a document: no kind of a type and no
constraint is refused.  Where all numbers have texts, the files are rendered, and they are given unless
two of them have one path in lower case, which is the only problem there is.  An integer whose numeral
is too long stops the emitter at a fault. -/
theorem python_covers (h : ofDocument document .python o none = .ok g) :
    (∀ t ∈ g.metadata.dataTypes, t.Coherent) ∧
      (g.metadata.hasTexts = true → ∃ all, Emission.rendered .python o g.metadata = .ok all ∧
        ((all.map fun a => Text.lower a.path).Nodup → g.artifacts = .ok all) ∧
        (¬ (all.map fun a => Text.lower a.path).Nodup → ∃ first, ∃ a ∈ all,
          g.artifacts = .error (.problem ⟨.samePath first a.name a.path, a.name, .python⟩))) ∧
      (g.metadata.hasTexts = false → g.artifacts = .error (.fault .value)) := by
  obtain ⟨hextraction, hmetadata, hartifacts⟩ := ofDocument_ok h
  have hcoherent : ∀ t ∈ g.metadata.dataTypes, t.Coherent :=
    hmetadata ▸ Style.refine_coherent (Extraction.ofDocument_coherent hextraction)
  obtain ⟨hrendered, hstops⟩ := @Emission.Python.rendered_of_coherent o _ hcoherent
  refine ⟨hcoherent, fun htexts => ?_, fun htexts => ?_⟩
  · obtain ⟨all, hall⟩ := hrendered htexts
    exact ⟨all, hall, hartifacts ▸ Emission.artifacts_of_rendered hall⟩
  · rw [hartifacts]
    exact Emission.artifacts_fault.mpr (hstops htexts)

/-- A document with a bound whose numeral is too long. -/
def longBound : Value :=
  .map [(.text "components", .map [(.text "schemas", .map [
    (.text "Big", .map [(.text "type", .text "integer"),
      (.text "minimum", .int (Number.tenTo Number.maxDigits))])])])]

theorem longBound_stops : ∃ g, ofDocument longBound .python {} none = .ok g ∧
    g.metadata.names = ["Big"] ∧ g.artifacts = .error (.fault .value) := by
  have hseen : (ofDocument longBound .python {} none).toOption.any (fun g =>
      g.metadata.names == ["Big"] && !g.metadata.hasTexts) = true := by
    decide +kernel
  cases hg : ofDocument longBound .python {} none with
  | error e =>
      rw [hg] at hseen
      cases hseen
  | ok g =>
      rw [hg] at hseen
      simp only [Except.toOption, Option.any_some, Bool.and_eq_true, beq_iff_eq,
        Bool.not_eq_true'] at hseen
      obtain ⟨-, -, hstops⟩ := python_covers hg
      exact ⟨g, rfl, hseen.1, hstops hseen.2⟩

end Generation

end Typewright
