/-
# How a model that succeeds is built

`Fields` is a derivation of the fields of a model from its properties, with the state before and
after each of them.  It has a rule for each way to deal with a property: the property is left out
with a warning, its type is found without building a model (`Found`), or it has an inline model,
whose own fields are derived in the same way.  Every model that succeeds has such a derivation
(`modelWithin_built`), so that later proofs go by induction on `Fields`.
-/
import Typewright.Proofs.Extraction.Growth

namespace Typewright

/-- The model and the property of a warning that says a property is left out. -/
def Warning.skipped? : Warning → Option (String × String)
  | .propertyShape m p => some (m, p)
  | .propertyUnavailable m p _ => some (m, p)
  | .propertyUntyped m p => some (m, p)
  | _ => none

namespace Extraction

/-! ## Derivations -/

/-- The name that is given to an inline type. -/
def inlineNameOf (s : State) (hint : String) : String := Name.fresh s.taken (Name.pascal hint)

theorem inlineNameOf_not_mem (s : State) (hint : String) : inlineNameOf s hint ∉ s.taken :=
  Name.fresh_not_mem _ _

theorem inlineNameOf_ne_empty (s : State) {hint : String} (h : hint ≠ "") :
    inlineNameOf s hint ≠ "" :=
  Name.fresh_ne_empty _ (Name.pascal_ne_empty h)

/-- The type of a schema that is found without building a model, with the state then. -/
inductive Found (scope : Scope) (hint : String) (s : State) (x : Value) : DataType → State → Prop
  | simple {ref target : Value} {name : String} {t : DataType} {s' : State} :
      Schema.ref? x = some ref → referent scope.document ref = .ok (name, target) →
      Schema.isSimple target = true → (namedType name target).run.run s = (.ok t, s') →
      Found scope hint s x t s'
  | model {ref target : Value} {name : String} {t : DataType} :
      Schema.ref? x = some ref → referent scope.document ref = .ok (name, target) →
      Schema.isSimple target = false → Schema.isComplex scope.document target = .ok true →
      name ∉ scope.unavailable → Schema.modelReference name target = .ok t →
      Found scope hint s x t s
  | plain {ref target : Value} {name : String} {t : DataType} {s' : State} :
      Schema.ref? x = some ref → referent scope.document ref = .ok (name, target) →
      Schema.isSimple target = false → Schema.isComplex scope.document target = .ok false →
      Schema.isPlain target = true → (plainType name target).run.run s = (.ok (some t), s') →
      Found scope hint s x t s'
  | inlineScalar {name : String} {t : DataType} :
      Schema.ref? x = none → Schema.isScalar x = true → name = inlineNameOf s hint →
      outcome (scalar name x) = .ok t →
      Found scope hint s x t (((s.took name).noted (notes (scalar name x))).pended t)

/-- The fields of a model, from its properties, with the state before and after. -/
inductive Fields (scope : Scope) :
    String → List String → State → List (String × Value) → List Field → State → Prop
  | nil {owner : String} {required : List String} {s : State} :
      Fields scope owner required s [] [] s
  | skip {owner : String} {required : List String} {s s' : State} {name : String} {schema : Value}
      {rest : List (String × Value)} {fields : List Field} {w : Warning} :
      w.skipped? = some (owner, name) → Noted scope (· = owner) w →
      Fields scope owner required (s.noted [w]) rest fields s' →
      Fields scope owner required s ((name, schema) :: rest) fields s'
  | found {owner : String} {required : List String} {s s₁ s' : State} {name : String}
      {schema x : Value} {rest : List (String × Value)} {fields : List Field} {t : DataType}
      {isCollection : Bool} :
      typeSource scope.document owner name schema = .ok (x, isCollection) →
      Found scope (hint owner name x isCollection) s x t s₁ →
      Fields scope owner required s₁ rest fields s' →
      Fields scope owner required s ((name, schema) :: rest)
        (fieldOf name (required.contains name) schema t isCollection :: fields) s'
  | inline {owner : String} {required : List String} {s s₁ s' : State} {name inner : String}
      {schema x : Value} {rest : List (String × Value)} {fields innerFields : List Field}
      {t : DataType} {isCollection : Bool} {shape : Shape} :
      typeSource scope.document owner name schema = .ok (x, isCollection) →
      Schema.ref? x = none → Schema.isScalar x = false →
      Schema.isComplex scope.document x = .ok true →
      inner = inlineNameOf s (hint owner name x isCollection) →
      Shape.ofSchema scope.document x = .ok shape →
      Fields scope inner shape.required (s.took inner) shape.properties innerFields s₁ →
      innerFields ≠ [] → Schema.modelReference inner x = .ok t →
      Fields scope owner required (s₁.pendedModel (modelOf inner x innerFields)) rest fields s' →
      Fields scope owner required s ((name, schema) :: rest)
        (fieldOf name (required.contains name) schema t isCollection :: fields) s'

/-- A model that is built from a schema, with the state before and after. -/
def Built (scope : Scope) (name : String) (schema : Value) (s : State) (m : Model) (s' : State) :
    Prop :=
  ∃ shape fields, Shape.ofSchema scope.document schema = .ok shape ∧
    Fields scope name shape.required s shape.properties fields s' ∧ fields ≠ [] ∧
    m = modelOf name schema fields

/-! ## Growth along a derivation -/

section Growth

variable {scope : Scope} {A : String → Prop} {R : String → Value → Prop}

theorem Found.grows (h : Reading scope.document A R) (owner : String) {hint : String}
    {s s' : State} {x : Value} {t : DataType} (hx : x.RefersIn A)
    (hfound : Found scope hint s x t s') :
    Grows scope R owner s s' := by
  cases hfound with
  | @simple ref target name t s' href hreferent hsimple hrun =>
      have hgrows : Grows scope R owner s _ := namedType_grows (h.read_ref? hx href hreferent)
        (Schema.isScalar_of_isSimple hsimple) s
      rwa [hrun] at hgrows
  | model _ _ _ _ _ _ => exact .refl s
  | @plain ref target name t s' href hreferent _ _ hplain hrun =>
      have hgrows : Grows scope R owner s _ := plainType_grows (h.read_ref? hx href hreferent)
        (Schema.isScalar_of_isPlain hplain) s
      rwa [hrun] at hgrows
  | @inlineScalar name t _ _ _ _ =>
      have hnoted : Grows scope R owner (s.took name)
          ((s.took name).noted (notes (scalar name x))) :=
        .noted fun w hw => .facet ((scalar_notes name x).facet w hw)
      exact (Grows.took name).trans (hnoted.trans (.pended t))

theorem Fields.grows (h : Reading scope.document A R) {owner : String} {required : List String}
    {s s' : State} {ps : List (String × Value)} {fields : List Field}
    (hfields : Fields scope owner required s ps fields s') (hps : ∀ p ∈ ps, p.2.RefersIn A) :
    Grows scope R owner s s' := by
  induction hfields with
  | nil => exact .refl _
  | skip _ hnoted _ ih =>
      have hrest := ih fun p hp => hps p (List.mem_cons_of_mem _ hp)
      exact (Grows.noted fun w hw => List.mem_singleton.mp hw ▸ hnoted).trans hrest
  | found hx hfound _ ih =>
      have hx' := h.refersIn_typeSource (hps _ List.mem_cons_self) hx
      exact (hfound.grows h _ hx').trans (ih fun p hp => hps p (List.mem_cons_of_mem _ hp))
  | inline hx _ _ _ hinner hshape _ _ _ _ ihinner ihrest =>
      have hx' := h.refersIn_typeSource (hps _ List.mem_cons_self) hx
      have hmodel := ihinner (Shape.refersIn_properties h.refersIn hx' hshape)
      have hfree : _ ∉ _ := hinner ▸ inlineNameOf_not_mem _ _
      exact ((hmodel.inline hfree).trans (.pendedModel _)).trans
        (ihrest fun p hp => hps p (List.mem_cons_of_mem _ hp))

theorem Found.growsAny {hint : String} {s s' : State} {x : Value} {t : DataType}
    (h : Found scope hint s x t s') (owner : String) :
    Grows scope (Referred scope.document) owner s s' :=
  h.grows (Reading.any scope.document) owner fun _ _ => trivial

theorem Fields.growsAny {owner : String} {required : List String} {s s' : State}
    {ps : List (String × Value)} {fields : List Field}
    (h : Fields scope owner required s ps fields s') :
    Grows scope (Referred scope.document) owner s s' :=
  h.grows (Reading.any scope.document) fun _ _ _ _ => trivial

end Growth

/-! ## Inline models -/

section InlineModels

variable {scope : Scope} {owner : String} {required : List String} {s s' : State}
  {ps : List (String × Value)} {fields : List Field}

theorem Found.pendingModels {hint : String} {x : Value} {t : DataType}
    (h : Found scope hint s x t s') : s'.pendingModels = s.pendingModels := by
  cases h with
  | simple _ _ _ hrun => rcases (namedType_ok hrun).2 with rfl | rfl <;> rfl
  | model _ _ _ _ _ _ => rfl
  | plain _ _ _ _ _ hrun =>
      obtain ⟨s₁, hnamed, rfl⟩ := plainType_ok hrun
      rcases (namedType_ok hnamed).2 with rfl | rfl <;> split <;> rfl
  | inlineScalar _ _ _ _ => rfl

theorem Found.taken {hint : String} {x : Value} {t : DataType}
    (h : Found scope hint s x t s') : s.taken ⊆ s'.taken :=
  (h.growsAny "").taken

theorem Fields.taken (h : Fields scope owner required s ps fields s') : s.taken ⊆ s'.taken :=
  h.growsAny.taken

/-- The models that are pending after a derivation are those before and inline models, whose names
were free. -/
theorem Fields.pendingModels (h : Fields scope owner required s ps fields s') :
    ∀ m ∈ s'.pendingModels, m ∈ s.pendingModels ∨ m.name ∉ s.taken ∧ m.name ∈ s'.taken := by
  induction h with
  | nil => exact fun _ hm => .inl hm
  | skip _ _ _ ih => exact ih
  | found _ hfound _ ih =>
      intro m hm
      rcases ih m hm with hm | ⟨hfree, hm⟩
      · exact .inl (hfound.pendingModels ▸ hm)
      · exact .inr ⟨fun hs => hfree (hfound.taken hs), hm⟩
  | inline _ _ _ _ hinner _ hfields _ _ hrest ihinner ihrest =>
      intro m hm
      have hinner := hinner ▸ inlineNameOf_not_mem _ _
      rcases ihrest m hm with hm | ⟨hfree, hm⟩
      · rcases List.mem_append.mp hm with hm | hm
        · rcases ihinner m hm with hm | ⟨hfree, hm⟩
          · exact .inl hm
          · exact .inr ⟨fun hs => hfree (List.mem_cons_of_mem _ hs), hrest.taken hm⟩
        · obtain rfl := List.mem_singleton.mp hm
          exact .inr ⟨hinner, hrest.taken (hfields.taken List.mem_cons_self)⟩
      · exact .inr ⟨fun hs => hfree (hfields.taken (List.mem_cons_of_mem _ hs)), hm⟩

/-- No two models that are pending have one name. -/
theorem Fields.nodup_pendingModels (h : Fields scope owner required s ps fields s') :
    (s.pendingModels.map (·.name)).Nodup → (∀ m ∈ s.pendingModels, m.name ∈ s.taken) →
      (s'.pendingModels.map (·.name)).Nodup := by
  induction h with
  | nil => exact fun hs _ => hs
  | skip _ _ _ ih => exact ih
  | found _ hfound _ ih =>
      intro hs hin
      rw [← hfound.pendingModels] at hs hin
      exact ih hs fun m hm => hfound.taken (hin m hm)
  | @inline _ _ s s₁ _ _ inner _ _ _ _ _ _ _ _ _ _ _ _ hinner _ hfields _ _ hrest ihinner ihrest =>
      intro hs hin
      have hfree : inner ∉ s.taken := hinner ▸ inlineNameOf_not_mem _ _
      have hin' : ∀ m ∈ s₁.pendingModels, m.name ∈ s₁.taken ∧ inner ≠ m.name := by
        intro m hm
        rcases hfields.pendingModels m hm with hm | ⟨hm, hm'⟩
        · exact ⟨hfields.taken (List.mem_cons_of_mem _ (hin m hm)), fun h => hfree (h ▸ hin m hm)⟩
        · exact ⟨hm', fun h => hm (h ▸ List.mem_cons_self)⟩
      refine ihrest ?_ fun m hm => ?_
      · have hs₁ := ihinner hs fun m hm => List.mem_cons_of_mem _ (hin m hm)
        simp only [State.pendedModel, List.map_append, List.map_cons, List.map_nil]
        rw [List.nodup_append]
        refine ⟨hs₁, List.pairwise_singleton _ _, fun a ha b hb => ?_⟩
        obtain ⟨m, hm, rfl⟩ := List.mem_map.mp ha
        obtain rfl := List.mem_singleton.mp hb
        exact fun h => (hin' m hm).2 h.symm
      · rcases List.mem_append.mp hm with hm | hm
        · exact (hin' m hm).1
        · obtain rfl := List.mem_singleton.mp hm
          exact hfields.taken List.mem_cons_self

end InlineModels

/-! ## From runs to derivations -/

section Runs

variable {scope : Scope} {build : Builder} {s s' : State}

theorem referenceType_found {hint : String} {x ref : Value} {found : Option DataType}
    (href : Schema.ref? x = some ref)
    (h : (referenceType scope ref).run.run s = (.ok found, s')) :
    found = none ∧ s' = s ∨ ∃ t, found = some t ∧ Found scope hint s x t s' := by
  rw [run_referenceType] at h
  split at h
  · exact nomatch h
  · rename_i name target hreferent
    split at h
    · rename_i hsimple
      split at h
      · rename_i t s₁ hrun
        cases h
        exact .inr ⟨t, rfl, .simple href hreferent hsimple hrun⟩
      · exact nomatch h
    · rename_i hsimple
      split at h
      · exact nomatch h
      · rename_i hcomplex
        split at h
        · exact nomatch h
        · rename_i havailable
          split at h
          · rename_i t ht
            cases h
            exact .inr ⟨t, rfl, .model href hreferent (by simpa using hsimple) hcomplex
              (by simpa using havailable) ht⟩
          · exact nomatch h
      · rename_i hcomplex
        split at h
        · rename_i hplain
          have hsome : ∃ t, found = some t := by
            rw [run_plainType] at h
            split at h
            · cases h
              exact ⟨_, rfl⟩
            · exact nomatch h
          obtain ⟨t, rfl⟩ := hsome
          exact .inr ⟨t, rfl, .plain href hreferent (by simpa using hsimple) hcomplex hplain h⟩
        · cases h
          exact .inl ⟨rfl, rfl⟩

theorem typeOf_found {hint : String} {x : Value} {found : Option DataType}
    (h : (typeOf build scope hint x).run.run s = (.ok found, s')) :
    found = none ∧ s' = s ∨ ∃ t, found = some t ∧ (Found scope hint s x t s' ∨
      ∃ inner m s₁, Schema.ref? x = none ∧ Schema.isScalar x = false ∧
        Schema.isComplex scope.document x = .ok true ∧ inner = inlineNameOf s hint ∧
        (build inner x).run.run (s.took inner) = (.ok m, s₁) ∧
        Schema.modelReference inner x = .ok t ∧ s' = s₁.pendedModel m) := by
  rw [run_typeOf] at h
  split at h
  · rename_i ref href
    exact (referenceType_found href h).imp id fun ⟨t, ht, hfound⟩ => ⟨t, ht, .inl hfound⟩
  · rename_i href
    dsimp only at h
    split at h
    · rename_i hscalar
      split at h
      · rename_i t ht
        cases h
        exact .inr ⟨t, rfl, .inl (.inlineScalar href hscalar rfl ht)⟩
      · exact nomatch h
    · rename_i hscalar
      split at h
      · exact nomatch h
      · cases h
        exact .inl ⟨rfl, rfl⟩
      · rename_i hcomplex
        split at h
        · exact nomatch h
        · rename_i m s₁ hm
          cases ht : Schema.modelReference (inlineNameOf s hint) x with
          | error e =>
              rw [inlineNameOf] at ht
              rw [ht] at h
              exact nomatch h
          | ok t =>
              have ht' := ht
              rw [inlineNameOf] at ht'
              rw [ht'] at h
              cases h
              exact .inr ⟨t, rfl, .inr ⟨_, m, s₁, href, by simpa using hscalar, hcomplex, rfl, hm,
                ht, rfl⟩⟩

/-- A property is left out with one warning about it, or its field is derived. -/
theorem property_fields
    (hbuild : ∀ {name schema s m s'}, (build name schema).run.run s = (.ok m, s') →
      Built scope name schema s m s')
    (hnever : ∀ x name, NeverUnavailable (build name x)) {owner : String} {required : List String}
    {name : String} {schema : Value} {s₁ : State} {field : Option Field}
    (h : (property build scope owner required name schema).run.run s = (.ok field, s₁))
    {rest : List (String × Value)} {fields : List Field}
    (hrest : Fields scope owner required s₁ rest fields s') :
    Fields scope owner required s ((name, schema) :: rest) (field.toList ++ fields) s' := by
  rw [run_property] at h
  split at h
  · split at h
    · -- a field
      rename_i t isCollection s₂ htype
      cases h
      rw [run_propertyType] at htype
      split at htype
      · exact nomatch htype
      · rename_i x c hx
        split at htype
        · rename_i found s₂ hfound
          cases htype
          rcases typeOf_found hfound with ⟨hnone, -⟩ | ⟨t', ht', hfound | hinline⟩
          · exact nomatch hnone
          · cases ht'
            exact .found hx hfound hrest
          · cases ht'
            obtain ⟨inner, m, s₃, href, hscalar, hcomplex, hinner, hm, ht, rfl⟩ := hinline
            obtain ⟨shape, innerFields, hshape, hfields, hne, rfl⟩ := hbuild hm
            exact .inline hx href hscalar hcomplex hinner hshape hfields hne ht hrest
        · exact nomatch htype
    · -- no type, which changes nothing
      rename_i c s₂ htype
      cases h
      rw [run_propertyType] at htype
      split at htype
      · exact nomatch htype
      · split at htype
        · rename_i found s₂ hfound
          cases htype
          rcases typeOf_found hfound with ⟨-, rfl⟩ | ⟨t', ht', -⟩
          · exact .skip rfl (.untyped rfl) hrest
          · exact nomatch ht'
        · exact nomatch htype
    · -- an unavailable model, which changes nothing
      rename_i target s₂ htype
      cases h
      obtain ⟨rfl, hmem⟩ := propertyType_unavailable hnever htype
      exact .skip rfl (.unavailable rfl hmem) hrest
    · exact nomatch h
  · cases h
    exact .skip rfl (.shape rfl) hrest

theorem properties_fields
    (hbuild : ∀ {name schema s m s'}, (build name schema).run.run s = (.ok m, s') →
      Built scope name schema s m s')
    (hnever : ∀ x name, NeverUnavailable (build name x)) {owner : String} {required : List String} :
    ∀ {ps : List (String × Value)} {s s' : State} {fields : List Field},
      (properties build scope owner required ps).run.run s = (.ok fields, s') →
      Fields scope owner required s ps fields s'
  | [], s, s', fields, h => by
      cases h
      exact .nil
  | (name, schema) :: rest, s, s', fields, h => by
      rw [run_properties_cons] at h
      split at h
      · exact nomatch h
      · rename_i field s₁ hfirst
        split at h
        · exact nomatch h
        · rename_i fields' s₂ hrest
          cases h
          exact property_fields hbuild hnever hfirst (properties_fields hbuild hnever hrest)

theorem modelWithin_built {depth : Nat} {name : String} {schema : Value} {m : Model}
    (h : (modelWithin scope depth name schema).run.run s = (.ok m, s')) :
    Built scope name schema s m s' := by
  induction depth generalizing name schema s s' m with
  | zero => exact nomatch h
  | succ depth ih =>
      rw [modelWithin_succ, run_modelWith] at h
      split at h
      · exact nomatch h
      · rename_i shape hshape
        split at h
        · exact nomatch h
        · rename_i fields s₁ hfields
          split at h
          · exact nomatch h
          · rename_i hne
            cases h
            exact ⟨shape, fields, hshape,
              properties_fields ih (fun x n => modelWithin_never depth n x) hfields,
              by simpa using hne, rfl⟩

end Runs

end Extraction

end Typewright
