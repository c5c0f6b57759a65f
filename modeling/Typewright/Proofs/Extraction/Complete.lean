/-
# Nothing is left out in silence

A document that is accepted has component schemas, and its extraction gives a result.  Each
component schema is in the result under its own name or named by a warning, and each property of a
model is a field of it or named by a warning (`nothing_left_out`).

The result is that of the last pass alone, so that no warning of an earlier pass is in it.
-/
import Typewright.Document.Read
import Typewright.Extraction.Metadata
import Typewright.Proofs.Extraction.Result

namespace Typewright

namespace Document

/-! ## Accepted documents -/

theorem issues_of_read {source text : String} {document : Value}
    (h : read source text = .ok document) : issues document = [] := by
  unfold read at h
  cases hv : readValue source text with
  | error e =>
      rw [hv] at h
      exact nomatch h
  | ok v =>
      rw [hv] at h
      simp only [bind, Except.bind] at h
      split at h
      · rename_i hissues
        cases h
        exact hissues
      · exact nomatch h

theorem sectionOf_map {v : Value} {key : String} (hv : v.isMap = true)
    (h : (v.get key).isNull = true ∨ (v.get key).isMap = true) :
    ∃ entries, sectionOf v key = .ok (.map entries) ∧
      (v.get key = .map entries ∨ entries = []) := by
  unfold sectionOf member
  rw [if_pos hv]
  cases hx : v.get key with
  | null => exact ⟨[], rfl, .inr rfl⟩
  | map entries =>
      cases entries with
      | nil => exact ⟨[], rfl, .inr rfl⟩
      | cons e es => exact ⟨e :: es, rfl, .inl rfl⟩
  | _ => simp [hx, Value.isNull, Value.isMap] at h

theorem issueUnlessMap_eq_nil {v : Value} {i : Issue} (h : issueUnlessMap v i = []) :
    v.isNull = true ∨ v.isMap = true := by
  unfold issueUnlessMap at h
  split at h
  · rename_i hv
    simpa using hv
  · exact nomatch h

/-- An accepted document has component schemas, if only an empty list of them. -/
theorem schemas_of_issues {document : Value} (h : issues document = []) :
    ∃ schemas, Document.schemas document = .ok schemas := by
  unfold issues at h
  split at h
  · exact nomatch h
  · rename_i hmap
    have hcomponents : componentsIssues (document.get "components") = [] :=
      (List.append_eq_nil_iff.mp h).2
    obtain ⟨houter, hinner⟩ := List.append_eq_nil_iff.mp hcomponents
    obtain ⟨components, hsection, hget⟩ :=
      sectionOf_map (by simpa using hmap) (issueUnlessMap_eq_nil houter)
    have hschemas : ((Value.map components).get "schemas").isNull = true ∨
        ((Value.map components).get "schemas").isMap = true := by
      rcases hget with hget | rfl
      · rw [hget] at hinner
        unfold schemasIssues at hinner
        split at hinner
        · rename_i entries hentries
          exact .inr (by rw [hentries]; rfl)
        · exact issueUnlessMap_eq_nil hinner
      · exact .inl rfl
    obtain ⟨entries, hsection', -⟩ := sectionOf_map (v := .map components) rfl hschemas
    refine ⟨entries.map fun e => (e.1.plain, e.2), ?_⟩
    unfold Document.schemas
    rw [hsection]
    simp only [bind, Except.bind, hsection']
    rfl

end Document

namespace Extraction

section Result

variable {scope : Scope} {A : String → Prop} {R : String → Value → Prop}
  {schemas : List (String × Value)} {s : State}

/-- What becomes of a component schema is in the result. -/
theorem Became.emitted_or_noted {name : String} {schema : Value}
    (h : Became scope.document s name schema) :
    (Schema.isSimple schema = true ∧ name ∈ s.dataTypes.map (·.name)) ∨
    (Schema.isSimple schema = false ∧ Schema.isComplex scope.document schema = .ok true ∧
      name ∈ s.models.map (·.name)) ∨
    ∃ w ∈ s.warnings, AboutSchema name w := by
  cases h with
  | notSchema _ hw => exact .inr (.inr ⟨_, hw, .notSchema⟩)
  | type _ hsimple _ hmem => exact .inl ⟨hsimple, hmem⟩
  | typeFailed _ _ _ hw => exact .inr (.inr ⟨_, hw, .failed⟩)
  | unclassified _ _ _ hw => exact .inr (.inr ⟨_, hw, .failed⟩)
  | model _ hsimple hcomplex hmem _ _ => exact .inr (.inl ⟨hsimple, hcomplex, hmem⟩)
  | modelFailed _ _ _ hw _ => exact .inr (.inr ⟨_, hw, .failed⟩)
  | plain _ _ _ _ hw => exact .inr (.inr ⟨_, hw, .plain⟩)
  | untyped _ _ _ _ hw => exact .inr (.inr ⟨_, hw, .untyped⟩)

/-- The component schema of a model's name has not failed. -/
theorem Reached.not_failed (h : Reached scope R schemas schemas s) {name : String}
    (hin : name ∈ schemas.map (·.1)) (hmodel : name ∈ s.models.map (·.name)) (why : Failure) :
    .failed name why ∉ s.warnings := by
  obtain ⟨m, hm, rfl⟩ := List.mem_map.mp hmodel
  obtain ⟨schema, he, hmap, hsimple, hcomplex⟩ := (h.models m hm).2 hin
  cases h.became _ he with
  | notSchema h => exact nomatch hmap.symm.trans h
  | type _ h => exact nomatch hsimple.symm.trans h
  | typeFailed _ h => exact nomatch hsimple.symm.trans h
  | unclassified _ _ h => exact nomatch hcomplex.symm.trans h
  | model _ _ _ _ _ h => exact h why
  | modelFailed _ _ _ _ hfailed => exact absurd hmodel (h.failed _ hfailed).2
  | plain _ _ h => exact nomatch hcomplex.symm.trans h
  | untyped _ _ h => exact nomatch hcomplex.symm.trans h

end Result

/-- The extraction of an accepted document, whose component schemas have pairwise different names,
gives a result. Each component schema is emitted under its own name or a warning names it, and not
both for a model. The properties of the schema that describes a model have been dealt with one after
the other: each one is a field of the model or the subject of one warning that it is skipped. -/
theorem nothing_left_out {source text : String} {document : Value}
    (hread : Document.read source text = .ok document)
    (hdifferent : ∀ schemas, Document.schemas document = .ok schemas →
      (schemas.map (·.1)).Nodup) :
    ∃ schemas e, Document.schemas document = .ok schemas ∧ types document = .ok e ∧
      (∀ c ∈ schemas,
        (Schema.isSimple c.2 = true ∧ c.1 ∈ e.dataTypes.map (·.name)) ∨
        (Schema.isSimple c.2 = false ∧ Schema.isComplex document c.2 = .ok true ∧
          c.1 ∈ e.models.map (·.name)) ∨
        ∃ w ∈ e.warnings, AboutSchema c.1 w) ∧
      (∀ c ∈ schemas, c.1 ∈ e.models.map (·.name) → ∀ why, .failed c.1 why ∉ e.warnings) ∧
      ∀ m ∈ e.models, ∃ schema shape, Describes document schemas e.models m schema ∧
        Shape.ofSchema document schema = .ok shape ∧ (shape.properties.map (·.1)).Nodup ∧
        Dealt (shape.properties.map (·.1)) (m.fields.map (·.name))
          (skippedOf m.name e.warnings) := by
  obtain ⟨schemas, hs⟩ := Document.schemas_of_issues (Document.issues_of_read hread)
  obtain ⟨U, hrun, -, hreached, haccounts⟩ := run_accounted hs (Setting.any (hdifferent schemas hs))
  refine ⟨schemas, _, hs, by rw [types, hrun]; rfl, fun c hc => ?_, fun c hc hmodel => ?_,
    fun m hm => ?_⟩
  · exact (hreached.became c hc).emitted_or_noted
  · exact hreached.not_failed (List.mem_map_of_mem hc) hmodel
  · obtain ⟨schema, shape, hdescribes, haccounted⟩ := haccounts.models m hm
    exact ⟨schema, shape, hdescribes, haccounted.ofSchema,
      Shape.nodup_properties haccounted.ofSchema, haccounted.dealt⟩

/-- A document with a model, one of whose two properties has no type, and with a schema that is
nothing of the kind. -/
def partialText : String :=
  "\x7b\"openapi\": \"3.0.0\", \"info\": \x7b\x7d, \"components\": \x7b\"schemas\": \x7b" ++
  "\"User\": \x7b\"type\": \"object\", \"properties\": \x7b" ++
  "\"name\": \x7b\"type\": \"string\"\x7d, \"extra\": \x7b\x7d\x7d\x7d, " ++
  "\"Free\": \x7b\x7d\x7d\x7d\x7d"

theorem partialText_accounted : ∃ document schemas e,
    Document.read "api.json" partialText = .ok document ∧
    Document.schemas document = .ok schemas ∧ types document = .ok e ∧
    ∀ m ∈ e.models, ∃ schema shape, Describes document schemas e.models m schema ∧
      Shape.ofSchema document schema = .ok shape ∧
      Dealt (shape.properties.map (·.1)) (m.fields.map (·.name)) (skippedOf m.name e.warnings) := by
  have hcheck : (match Document.read "api.json" partialText with
      | .ok document => match Document.schemas document with
        | .ok schemas => decide (schemas.map (·.1) = ["User", "Free"])
        | .error _ => false
      | .error _ => false) = true := by decide +kernel
  cases hread : Document.read "api.json" partialText with
  | error _ =>
      rw [hread] at hcheck
      exact nomatch hcheck
  | ok document =>
      rw [hread] at hcheck
      have hdifferent : ∀ schemas, Document.schemas document = .ok schemas →
          (schemas.map (·.1)).Nodup := by
        intro schemas hs
        have hnames : schemas.map (·.1) = ["User", "Free"] := by simpa [hs] using hcheck
        rw [hnames]
        decide
      obtain ⟨schemas, e, hs, he, -, -, hmodels⟩ := nothing_left_out hread hdifferent
      refine ⟨document, schemas, e, rfl, hs, he, fun m hm => ?_⟩
      obtain ⟨schema, shape, hdescribes, hshape, -, hdealt⟩ := hmodels m hm
      exact ⟨schema, shape, hdescribes, hshape, hdealt⟩

end Extraction

end Typewright
