/-
# Every data type is that of a scalar schema

The data types of a result were all read from schemas of scalars (`OfScalar`): types are known under
a name only after a scalar was read under it (`Grows.read`), and what is pending with a model is such
a type or that of an inline scalar.  So no data type refers to a model, and the constraints of each
apply to its kind (`ofDocument_coherent`).
-/
import Typewright.Proofs.Extraction.Owned
import Typewright.Proofs.Extraction.WellFormed
import Typewright.Proofs.Schema.Applicable

namespace Typewright.Extraction

/-- A type that is read from the schema of a scalar, under some name. -/
def OfScalar (t : DataType) : Prop :=
  ∃ name schema, Schema.isScalar schema = true ∧ outcome (scalar name schema) = .ok t

/-- A type read from a scalar refers to no model, and its constraints apply to its kind. -/
theorem OfScalar.coherent {t : DataType} (h : OfScalar t) : t.Coherent := by
  obtain ⟨name, schema, hscalar, ht⟩ := h
  obtain ⟨-, cs, hcs, rfl⟩ := (Schema.outcome_scalarType_eq_ok name).mp ht
  exact ⟨Schema.kind_ne_object hscalar, Schema.constraints_apply hcs⟩

/-- Each type that is known under a name is that of a scalar. -/
def KnowsScalars (s : State) : Prop := ∀ n t, s.known.lookup n = some t → OfScalar t

section Growing

variable {scope : Scope} {R : String → Value → Prop} {owner : String} {required : List String}
  {s s' : State} {ps : List (String × Value)} {fields : List Field} {x : Value} {t : DataType}

theorem KnowsScalars.grows (h : KnowsScalars s) (hgrows : Grows scope R owner s s') :
    KnowsScalars s' := by
  intro n t ht
  rcases hgrows.read ht with ht | ⟨schema, -, hscalar, ht⟩
  · exact h n t ht
  · exact ⟨n, schema, hscalar, ht⟩

theorem Emits.ofScalar (hknown : KnowsScalars s) (h : Emits scope.document [] s x t) :
    OfScalar t := by
  cases h with
  | plain _ _ _ _ ht => exact hknown _ _ ht
  | scalar _ hscalar ht _ => exact ⟨t.name, x, hscalar, ht⟩

theorem Found.pendingScalars {hint : String} (hknown : KnowsScalars s)
    (h : Found scope hint s x t s') (hs : ∀ u ∈ s.pendingTypes, OfScalar u) :
    ∀ u ∈ s'.pendingTypes, OfScalar u := by
  intro u hu
  rcases h.emits (List.nil_subset _) u hu with hu | ⟨rfl, hemits⟩
  · exact hs u hu
  · exact hemits.ofScalar (hknown.grows (h.growsAny ""))

/-- The types that are pending with the fields of a model are those of scalars. -/
theorem Fields.pendingScalars (h : Fields scope owner required s ps fields s') :
    KnowsScalars s → (∀ u ∈ s.pendingTypes, OfScalar u) → ∀ u ∈ s'.pendingTypes, OfScalar u := by
  induction h with
  | nil => exact fun _ hs => hs
  | skip _ _ _ ih => exact fun hknown => ih hknown
  | found _ hfound _ ih =>
      intro hknown hs
      exact ih (hknown.grows (hfound.growsAny "")) (hfound.pendingScalars hknown hs)
  | @inline _ _ s _ _ _ inner _ _ _ _ _ _ _ _ _ _ _ _ _ _ hfields _ _ _ ihinner ihrest =>
      intro hknown hs
      have hinner : KnowsScalars (s.took inner) := hknown
      have hafter := hinner.grows hfields.growsAny
      exact ihrest hafter (ihinner hinner hs)

end Growing

/-! ## Passes -/

/-- Between two component schemas, all types are those of scalars and nothing is pending. -/
structure Scalars (s : State) : Prop where
  idleTypes : s.pendingTypes = []
  idleModels : s.pendingModels = []
  known : KnowsScalars s
  types : ∀ t ∈ s.dataTypes, OfScalar t

section Run

variable {document : Value} {schemas : List (String × Value)} {unavailable : List String}
  {s s' : State}

theorem Step.types_ofScalar {scope : Scope} {R : String → Value → Prop} {name : String}
    {schema : Value} (h : Step scope R s name schema s') (hs : Scalars s) :
    ∀ t ∈ s'.dataTypes, OfScalar t := by
  intro t ht
  cases h.emitted with
  | nothing htypes _ => exact hs.types t (htypes ▸ ht)
  | @type u s₁ _ hrun hgrows =>
      rw [State.emit_eq] at ht
      rcases mem_emitAll ht with ht | ht
      · exact hs.types t (hgrows.dataTypes ▸ ht)
      · obtain rfl := List.mem_singleton.mp ht
        exact hs.known.grows hgrows _ _ (namedType_ok hrun).1
  | model _ _ _ _ hfields _ hgrows =>
      rcases mem_emitAll ht with ht | ht
      · have hsame : t ∈ (s.began name).dataTypes := hgrows.dataTypes ▸ ht
        exact hs.types t hsame
      · have hknown : KnowsScalars (s.began name) := hs.known
        have hidle : (s.began name).pendingTypes = [] := hs.idleTypes
        refine hfields.pendingScalars hknown (fun u hu => ?_) t ht
        rw [hidle] at hu
        cases hu

theorem Step.scalars {scope : Scope} {R : String → Value → Prop} {name : String} {schema : Value}
    (h : Step scope R s name schema s') (hs : Scalars s) : Scalars s' := by
  have hlater := h.later hs.idleTypes hs.idleModels
  refine ⟨hlater.idleTypes, hlater.idleModels, fun n t ht => ?_, h.types_ofScalar hs⟩
  rcases hlater.read ht with ht | ⟨schema, -, hscalar, ht⟩
  · exact hs.known n t ht
  · exact ⟨n, schema, hscalar, ht⟩

theorem scalars_pass : Scalars (pass document schemas unavailable) := by
  refine pass_induction (P := fun _ s => Scalars s) ⟨rfl, rfl, ?_, ?_⟩ ?_
  · intro n t ht
    cases ht
  · intro t ht
    cases ht
  · intro done e rest s _ hs
    have hstep : Step ⟨document, unavailable⟩ (fun _ _ => True) s e.1 e.2 _ :=
      step_spec ⟨fun _ _ _ _ => trivial, fun _ _ => trivial⟩ trivial (A := fun _ => True)
        (fun _ _ => trivial) s
    exact hstep.scalars hs

/-- No data type that is extracted from a document refers to a model, and the constraints of each
apply to its kind. -/
theorem ofDocument_coherent {withEndpoints : Bool} {e : Extraction}
    (h : ofDocument document withEndpoints = .ok e) : ∀ t ∈ e.dataTypes, t.Coherent := by
  obtain ⟨s, hrun, htypes, -⟩ := ofDocument_run h
  obtain ⟨schemas, U, -, rfl⟩ := run_pass hrun
  intro t ht
  exact (scalars_pass.types t (htypes ▸ ht)).coherent

end Run

end Typewright.Extraction
