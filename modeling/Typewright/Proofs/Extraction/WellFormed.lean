/-
# The models of every document are well-formed

The fields of a model come from properties that have different names, so they have different names;
each goes by its name on the wire, and has an element type just if it is a collection
(`Model.WellFormed`).  Nothing is asked of the document for that: component schemas may share names
and may refer to anything.  The invariant is carried along the derivation of a model, with the inline
models that are pending beside it, and then through the steps of a pass.
-/
import Typewright.Extraction.Metadata
import Typewright.Proofs.Extraction.Pass

namespace Typewright

/-- Whether the element type of a field is the type of its values, and given for collections only. -/
def Field.ElementMatches (f : Field) : Prop :=
  f.element = if f.isCollection then some f.dataType else none

/-- A model whose fields have different names, which they go by on the wire, and have an element
type just if they are collections. -/
structure Model.WellFormed (m : Model) : Prop where
  nodup : (m.fields.map (·.name)).Nodup
  wireName : ∀ f ∈ m.fields, f.wireName = f.name
  element : ∀ f ∈ m.fields, f.ElementMatches

namespace Extraction

/-! ## Models that are built -/

section Fields

variable {scope : Scope} {owner : String} {required : List String} {s s' : State}
  {ps : List (String × Value)} {fields : List Field}

/-- The fields of a model have the names of its properties, in the order of the properties. -/
theorem Fields.names_sublist (h : Fields scope owner required s ps fields s') :
    (fields.map (·.name)).Sublist (ps.map (·.1)) := by
  induction h with
  | nil => exact .slnil
  | skip _ _ _ ih => exact ih.cons _
  | found _ _ _ ih => exact ih.cons_cons _
  | inline _ _ _ _ _ _ _ _ _ _ _ ihrest => exact ihrest.cons_cons _

theorem Fields.each (h : Fields scope owner required s ps fields s') :
    ∀ f ∈ fields, f.wireName = f.name ∧ f.ElementMatches := by
  induction h with
  | nil => exact fun _ hf => absurd hf List.not_mem_nil
  | skip _ _ _ ih => exact ih
  | found _ _ _ ih => exact List.forall_mem_cons.mpr ⟨⟨rfl, rfl⟩, ih⟩
  | inline _ _ _ _ _ _ _ _ _ _ _ ihrest => exact List.forall_mem_cons.mpr ⟨⟨rfl, rfl⟩, ihrest⟩

theorem Fields.wellFormed {shape : Shape} {schema : Value} (name : String)
    (h : Fields scope owner required s shape.properties fields s')
    (hshape : Shape.ofSchema scope.document schema = .ok shape) :
    (modelOf name schema fields).WellFormed where
  nodup := h.names_sublist.nodup (Shape.nodup_properties hshape)
  wireName := fun f hf => (h.each f hf).1
  element := fun f hf => (h.each f hf).2

/-- The inline models that a model takes along are well-formed. -/
theorem Fields.wellFormed_pending (h : Fields scope owner required s ps fields s') :
    (∀ m ∈ s.pendingModels, m.WellFormed) → ∀ m ∈ s'.pendingModels, m.WellFormed := by
  induction h with
  | nil => exact id
  | skip _ _ _ ih => exact ih
  | found _ hfound _ ih => exact fun hs => ih (hfound.pendingModels ▸ hs)
  | inline _ _ _ _ _ hshape hfields _ _ _ ihinner ihrest =>
      intro hs
      refine ihrest fun m hm => ?_
      rcases List.mem_append.mp hm with hm | hm
      · exact ihinner hs m hm
      · exact List.mem_singleton.mp hm ▸ hfields.wellFormed _ hshape

end Fields

/-! ## Passes -/

section Run

variable {document : Value} {schemas : List (String × Value)} {unavailable : List String}
  {s s' : State}

theorem Step.wellFormed {scope : Scope} {R : String → Value → Prop} {name : String}
    {schema : Value} (h : Step scope R s name schema s') (hidle : s.pendingModels = [])
    (hs : ∀ m ∈ s.models, m.WellFormed) : ∀ m ∈ s'.models, m.WellFormed := by
  cases h.emitted with
  | nothing _ hmodels => exact hmodels ▸ hs
  | type _ _ hgrows =>
      rw [State.emit_eq]
      exact hgrows.models ▸ hs
  | @model shape fields s₁ _ _ _ hshape hfields _ hgrows =>
      intro m hm
      have hpending : ∀ m ∈ (s.began name).pendingModels, m.WellFormed := by
        intro m hm
        have hm : m ∈ s.pendingModels := hm
        exact absurd (hidle ▸ hm) List.not_mem_nil
      rcases List.mem_append.mp hm with hm | hm
      · exact hs m (hgrows.models ▸ hm)
      · rcases List.mem_append.mp hm with hm | hm
        · exact hfields.wellFormed_pending hpending m hm
        · exact List.mem_singleton.mp hm ▸ hfields.wellFormed name hshape

theorem wellFormed_pass : ∀ m ∈ (pass document schemas unavailable).models, m.WellFormed := by
  have hpass : (pass document schemas unavailable).pendingTypes = [] ∧
      (pass document schemas unavailable).pendingModels = [] ∧
      ∀ m ∈ (pass document schemas unavailable).models, m.WellFormed := by
    refine pass_induction (P := fun _ s => s.pendingTypes = [] ∧ s.pendingModels = [] ∧
      ∀ m ∈ s.models, m.WellFormed) ⟨rfl, rfl, fun _ hm => absurd hm List.not_mem_nil⟩ ?_
    rintro done e rest s - ⟨htypes, hmodels, hs⟩
    have hstep : Step ⟨document, unavailable⟩ (fun _ _ => True) s e.1 e.2 _ :=
      step_spec ⟨fun _ _ _ _ => trivial, fun _ _ => trivial⟩ trivial (A := fun _ => True)
        (fun _ _ => trivial) s
    have hlater := hstep.later htypes hmodels
    exact ⟨hlater.idleTypes, hlater.idleModels, hstep.wellFormed hmodels hs⟩
  exact hpass.2.2

theorem mem_passesFrom {s : State} : ∀ {more : Nat} {unavailable : List String},
    s ∈ passesFrom document schemas more unavailable → ∃ U, s = pass document schemas U
  | 0, _, h => absurd h List.not_mem_nil
  | more + 1, unavailable, h => by
      rw [passesFrom] at h
      split at h
      · exact ⟨unavailable, List.mem_singleton.mp h⟩
      · rcases List.mem_cons.mp h with rfl | h
        · exact ⟨unavailable, rfl⟩
        · exact mem_passesFrom h

/-- What a document gives is the state after one pass over its component schemas. -/
theorem run_pass (h : run document = .ok s) :
    ∃ schemas U, Document.schemas document = .ok schemas ∧ s = pass document schemas U := by
  unfold run passes at h
  cases hs : Document.schemas document with
  | error e =>
      rw [hs] at h
      exact nomatch h
  | ok schemas =>
      rw [hs] at h
      obtain rfl := Except.ok.inj h
      have hne : passesFrom document schemas (schemas.length + 1) [] ≠ [] := by
        rw [passesFrom]
        split <;> exact List.cons_ne_nil _ _
      obtain ⟨U, hU⟩ := mem_passesFrom (List.getLast_mem hne)
      refine ⟨schemas, U, rfl, ?_⟩
      rw [lastOf, List.getLast?_eq_some_getLast hne, Option.getD_some, hU]

theorem ofDocument_run {withEndpoints : Bool} {e : Extraction}
    (h : ofDocument document withEndpoints = .ok e) :
    ∃ s, run document = .ok s ∧ e.dataTypes = s.dataTypes ∧ e.models = s.models := by
  unfold ofDocument at h
  split at h
  · exact nomatch h
  · rename_i s hs
    refine ⟨s, hs, ?_⟩
    split at h
    · unfold withService at h
      split at h
      · cases h
        exact ⟨rfl, rfl⟩
      · exact nomatch h
    · cases h
      exact ⟨rfl, rfl⟩

/-- The models that are extracted from a document are well-formed, whatever the document. -/
theorem ofDocument_wellFormed {withEndpoints : Bool} {e : Extraction}
    (h : ofDocument document withEndpoints = .ok e) : ∀ m ∈ e.models, m.WellFormed := by
  obtain ⟨s, hrun, -, hmodels⟩ := ofDocument_run h
  obtain ⟨schemas, U, -, rfl⟩ := run_pass hrun
  exact hmodels ▸ wellFormed_pass

end Run

end Extraction

end Typewright
