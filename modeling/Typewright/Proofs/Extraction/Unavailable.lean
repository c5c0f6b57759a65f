/-
# Failures because of unavailable models

A model that is unavailable is the only cause for which a property is left out instead of failing
its model.  Such a failure comes from a reference of the property itself, before anything has been
changed (`propertyType_unavailable`), and never out of an inline model (`modelWithin_never`).
-/
import Typewright.Proofs.Extraction.Work

namespace Typewright.Extraction

variable {α : Type} {s s' : State} {scope : Scope} {target : String}

/-- Work that never fails because a model is unavailable. -/
def NeverUnavailable (x : Extracting α) : Prop :=
  ∀ s target, (x.run.run s).1 ≠ .error (.problem (.unavailable target))

/-! ## Types -/

theorem namedType_never (name : String) (schema : Value) :
    NeverUnavailable (namedType name schema) := by
  intro s target
  rw [run_namedType]
  have hnot := (scalar_notes name schema).not_problem (.unavailable target)
  cases s.known.lookup name with
  | some t => exact fun h => nomatch h
  | none =>
      cases ht : outcome (scalar name schema) with
      | ok t => exact fun h => nomatch h
      | error e => exact fun h => hnot (ht.trans (congrArg _ (Except.error.inj h)))

theorem plainType_never (name : String) (schema : Value) :
    NeverUnavailable (plainType name schema) := by
  intro s target
  rw [run_plainType]
  have hnot := namedType_never name schema s target
  revert hnot
  rcases (namedType name schema).run.run s with ⟨e | t, s'⟩
  · exact fun hnot h => hnot (congrArg _ (Except.error.inj h))
  · exact fun _ h => nomatch h

theorem referent_ne_unavailable (document ref : Value) (target : String) :
    referent document ref ≠ .error (.problem (.unavailable target)) := by
  unfold referent
  split
  · exact fun h => nomatch h
  · split
    · exact fun h => nomatch Failure.eq_of_ofReference (Except.error.inj h)
    · exact fun h => nomatch h

theorem modelReference_ne_unavailable (name : String) (schema : Value) (target : String) :
    Schema.modelReference name schema ≠ .error (.problem (.unavailable target)) := by
  unfold Schema.modelReference
  split <;> exact fun h => nomatch h

theorem referenceType_unavailable {ref : Value}
    (h : (referenceType scope ref).run.run s = (.error (.problem (.unavailable target)), s')) :
    s' = s ∧ target ∈ scope.unavailable := by
  rw [run_referenceType] at h
  split at h
  · rename_i e he
    cases h
    exact absurd he (referent_ne_unavailable _ _ _)
  · rename_i name goal hreferent
    split at h
    · -- a scalar
      have hnever := namedType_never name goal s target
      revert h hnever
      rcases (namedType name goal).run.run s with ⟨e | t, s₁⟩
      · exact fun h hnever => absurd (congrArg Prod.fst h)
          fun h => hnever (congrArg _ (Except.error.inj h))
      · exact fun h => nomatch h
    · split at h
      · rename_i e he
        cases h
        exact absurd he (Schema.isComplex_ne_problem _ _ _)
      · split at h
        · rename_i hcontains
          cases h
          exact ⟨rfl, List.contains_iff_mem.mp hcontains⟩
        · split at h
          · exact nomatch h
          · rename_i e he
            cases h
            exact absurd he (modelReference_ne_unavailable _ _ _)
      · split at h
        · exact absurd (congrArg Prod.fst h) (plainType_never name goal s target)
        · exact nomatch h

theorem typeOf_unavailable {build : Builder} {hint : String} {schema : Value}
    (hbuild : ∀ name, NeverUnavailable (build name schema))
    (h : (typeOf build scope hint schema).run.run s =
      (.error (.problem (.unavailable target)), s')) :
    s' = s ∧ target ∈ scope.unavailable := by
  rw [run_typeOf] at h
  split at h
  · exact referenceType_unavailable h
  · dsimp only at h
    split at h
    · split at h
      · exact nomatch h
      · rename_i e he
        cases h
        exact absurd he ((scalar_notes _ _).not_problem _)
    · split at h
      · rename_i e he
        cases h
        exact absurd he (Schema.isComplex_ne_problem _ _ _)
      · exact nomatch h
      · have hnever := hbuild (Name.fresh s.taken (Name.pascal hint))
          (s.took (Name.fresh s.taken (Name.pascal hint))) target
        split at h
        · rename_i e s₁ he
          cases h
          exact absurd (congrArg Prod.fst he) hnever
        · rename_i m s₁ _
          cases hreference : Schema.modelReference (Name.fresh s.taken (Name.pascal hint)) schema with
          | ok t => rw [hreference] at h; exact nomatch h
          | error e =>
              rw [hreference] at h
              cases h
              exact absurd hreference (modelReference_ne_unavailable _ _ _)

/-! ## Properties and models -/

theorem typeSource_ne_unavailable (document : Value) (owner property : String) (schema : Value)
    (target : String) :
    typeSource document owner property schema ≠ .error (.problem (.unavailable target)) := by
  unfold typeSource arraySchema
  intro h
  cases hx : Schema.ref? schema with
  | none =>
      simp only [hx] at h
      split at h
      · rename_i e he
        exact nomatch he
      · exact nomatch h
      · split at h <;> exact nomatch h
  | some ref =>
      simp only [hx] at h
      cases hr : Document.resolve document ref with
      | error broken =>
          simp only [hr] at h
          exact nomatch Failure.eq_of_ofReference (Except.error.inj h)
      | ok goal =>
          simp only [hr] at h
          split at h
          · rename_i e he
            exact nomatch he
          · exact nomatch h
          · split at h <;> exact nomatch h

theorem propertyType_unavailable {build : Builder} {owner property : String} {schema : Value}
    (hbuild : ∀ x name, NeverUnavailable (build name x))
    (h : (propertyType build scope owner property schema).run.run s =
      (.error (.problem (.unavailable target)), s')) :
    s' = s ∧ target ∈ scope.unavailable := by
  rw [run_propertyType] at h
  split at h
  · rename_i e he
    cases h
    exact absurd he (typeSource_ne_unavailable _ _ _ _ _)
  · rename_i x isCollection _
    split at h
    · exact nomatch h
    · rename_i e s₁ he
      cases h
      exact typeOf_unavailable (hbuild x) he

theorem property_never (build : Builder) (scope : Scope) (owner : String) (required : List String)
    (name : String) (schema : Value) :
    NeverUnavailable (property build scope owner required name schema) := by
  intro s target
  rw [run_property]
  split
  · split
    · exact fun h => nomatch h
    · exact fun h => nomatch h
    · exact fun h => nomatch h
    · rename_i e s₁ hnot _
      exact fun h => hnot target (Except.error.inj h)
  · exact fun h => nomatch h

theorem properties_never (build : Builder) (scope : Scope) (owner : String)
    (required : List String) : ∀ ps : List (String × Value),
      NeverUnavailable (properties build scope owner required ps)
  | [], _, _ => fun h => nomatch h
  | (name, schema) :: rest, s, target => by
      rw [run_properties_cons]
      have hfirst := property_never build scope owner required name schema s target
      revert hfirst
      rcases (property build scope owner required name schema).run.run s with ⟨e | field, s₁⟩
      · exact fun hfirst h => hfirst (congrArg _ (Except.error.inj h))
      · have hrest := properties_never build scope owner required rest s₁ target
        revert hrest
        dsimp only
        rcases (properties build scope owner required rest).run.run s₁ with ⟨e | fields, s₂⟩
        · exact fun hrest _ h => hrest (congrArg _ (Except.error.inj h))
        · exact fun _ _ h => nomatch h

theorem modelWith_never (build : Builder) (name : String) (schema : Value) :
    NeverUnavailable (modelWith build scope name schema) := by
  intro s target
  rw [run_modelWith]
  split
  · rename_i e he
    exact fun h =>
      Shape.ofSchema_ne_unavailable schema target (he.trans (congrArg _ (Except.error.inj h)))
  · rename_i shape _
    have hrest := properties_never build scope name shape.required shape.properties s target
    split
    · rename_i e s₁ he
      exact fun h => hrest (he ▸ congrArg _ (Except.error.inj h))
    · split
      · exact fun h => nomatch h
      · exact fun h => nomatch h

theorem modelWithin_never : ∀ (depth : Nat) (name : String) (schema : Value),
    NeverUnavailable (modelWithin scope depth name schema)
  | 0, _, _ => fun _ _ h => nomatch h
  | depth + 1, name, schema => modelWith_never (modelWithin scope depth) name schema

end Typewright.Extraction
