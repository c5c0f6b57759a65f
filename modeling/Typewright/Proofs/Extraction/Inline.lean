/-
# Schemas that are written inline or by reference

A property can have a scalar schema written in it, or consist of a reference to a component schema.
The two ways go through different work, and the attributes of the field are read from different
places: the type from what the reference leads to, or from what is known under its name already, but
whether the field admits null from the property schema alone.

`reference_like_inline_iff` says exactly when the two fields are the same: the type that is known has
to agree with the component schema, and the component schema must not admit null if the property is
required.
-/
import Typewright.Proofs.Extraction.Referenced

namespace Typewright

/-- Two fields that admit the same values. -/
structure Field.Like (f g : Field) : Prop where
  kind : f.dataType.kind = g.dataType.kind
  constraints : f.dataType.constraints = g.dataType.constraints
  isCollection : f.isCollection = g.isCollection
  isNullable : f.isNullable = g.isNullable

namespace Extraction

/-- A schema that consists of a reference and of nothing else. -/
def bareReference (r : String) : Value := .map [(.text "$ref", .text r)]

section Scalar

variable {document target : Value} {r name : String}

theorem ref?_bareReference (r : String) : Schema.ref? (bareReference r) = some (.text r) := rfl

theorem isNullable_bareReference (r : String) : Schema.isNullable (bareReference r) = false := rfl

/-! ## Properties with scalar schemas -/

theorem type?_ne_array (h : Schema.isScalar target = true) :
    (Schema.type? target == some "array") = false := by
  obtain ⟨t, ht, htype⟩ := Schema.isScalar_iff.mp h
  have hnot : ∀ t ∈ Schema.scalarTypes, (some t == some "array") = false := by decide
  exact htype ▸ hnot t ht

/-- A property whose schema is written in it is no collection of scalars. -/
theorem typeSource_inline (owner property : String) (href : Schema.ref? target = none)
    (hscalar : Schema.isScalar target = true) :
    typeSource document owner property target = .ok (target, false) := by
  have harray : arraySchema document target = .ok none := by
    simp only [arraySchema, href, type?_ne_array hscalar, Bool.false_eq_true, if_false]
  rw [typeSource, harray]

theorem typeSource_reference (owner property : String)
    (hreferent : referent document (.text r) = .ok (name, target))
    (hscalar : Schema.isScalar target = true) :
    typeSource document owner property (bareReference r) = .ok (bareReference r, false) := by
  obtain ⟨-, -, htarget⟩ := referent_eq_ok hreferent
  have hbare : (Schema.type? (bareReference r) == some "array") = false := rfl
  have harray : arraySchema document (bareReference r) = .ok none := by
    simp only [arraySchema, ref?_bareReference, htarget, type?_ne_array hscalar, hbare,
      Bool.false_eq_true, if_false]
  rw [typeSource, harray]

/-! ## The field of an inline scalar -/

theorem agrees_of_scalar {u : DataType} (hu : outcome (scalar name target) = .ok u) :
    Agrees u target := by
  obtain ⟨-, cs, hcs, rfl⟩ := (Schema.outcome_scalarType_eq_ok u.name).mp hu
  exact ⟨rfl, hcs⟩

/-- Types that agree with a schema have its kind and constraints in common. -/
theorem Agrees.iff_eq {t u : DataType} (hu : Agrees u target) :
    Agrees t target ↔ t.kind = u.kind ∧ t.constraints = u.constraints := by
  obtain ⟨hkind, hconstraints⟩ := hu
  unfold Agrees
  rw [(Schema.constraints_alike t.name u.name target _).same, hconstraints, hkind]
  exact and_congr_right fun _ => ⟨fun h => (Except.ok.inj h).symm, fun h => h ▸ rfl⟩

/-- A scalar that has a type under one name has one under every other. -/
theorem outcome_scalar_of_ne_empty {t : DataType} (h : outcome (scalar name target) = .ok t)
    {other : String} (hother : other ≠ "") : ∃ u, outcome (scalar other target) = .ok u := by
  obtain ⟨-, cs, hcs, -⟩ := (Schema.outcome_scalarType_eq_ok name).mp h
  exact ⟨_, (Schema.outcome_scalarType_eq_ok name).mpr ⟨hother, cs, hcs, rfl⟩⟩

/-- An inline type gets a name, if the model or the property has one. -/
theorem hint_inline_ne_empty {owner key : String} (h : owner ≠ "" ∨ key ≠ "") (schema : Value) :
    hint owner key schema false ≠ "" := by
  have hmade : owner ++ Name.pascal key ≠ "" := by
    intro hempty
    obtain ⟨howner, hkey⟩ := String.append_eq_empty_iff.mp hempty
    exact h.elim (· howner) fun hne => Name.pascal_ne_empty hne hkey
  unfold hint hintFor
  dsimp only
  split
  · rename_i htitle
    exact Value.plain_ne_empty htitle
  · exact hmade

/-- From every state a property that has a scalar schema written in it gets a field. -/
theorem property_inline (build : Builder) (scope : Scope) (s : State) {owner key : String}
    (required : List String) (href : Schema.ref? target = none)
    (hscalar : Schema.isScalar target = true) {t : DataType}
    (ht : outcome (scalar name target) = .ok t) (hname : owner ≠ "" ∨ key ≠ "") :
    ∃ u s', Agrees u target ∧ (property build scope owner required key target).run.run s =
      (.ok (some (fieldOf key (required.contains key) target u false)), s') := by
  have hfresh : Name.fresh s.taken (Name.pascal (hint owner key target false)) ≠ "" :=
    Name.fresh_ne_empty _ (Name.pascal_ne_empty (hint_inline_ne_empty hname target))
  obtain ⟨u, hu⟩ := outcome_scalar_of_ne_empty ht hfresh
  obtain ⟨s', htype⟩ : ∃ s', (typeOf build scope (hint owner key target false) target).run.run s =
      (.ok (some u), s') := by
    rw [run_typeOf, href]
    dsimp only
    rw [if_pos hscalar, hu]
    exact ⟨_, rfl⟩
  refine ⟨u, s', agrees_of_scalar hu, ?_⟩
  rw [run_property, if_pos (Schema.isMap_of_isScalar hscalar), run_propertyType,
    typeSource_inline owner key href hscalar]
  dsimp only
  rw [htype]

/-- The two fields are the same just if the types agree and the schema does not make a field that is
required admit null. -/
theorem like_iff {t u : DataType} (hu : Agrees u target) (key : String) (isRequired : Bool) :
    Field.Like (fieldOf key isRequired (bareReference r) t false)
        (fieldOf key isRequired target u false) ↔
      Agrees t target ∧ (isRequired = true → Schema.isNullable target = false) := by
  have hnullable : (Schema.isNullable (bareReference r) || !isRequired) =
      (Schema.isNullable target || !isRequired) ↔
        (isRequired = true → Schema.isNullable target = false) := by
    rw [isNullable_bareReference]
    cases isRequired <;> cases Schema.isNullable target <;> decide
  rw [hu.iff_eq]
  constructor
  · rintro ⟨hkind, hconstraints, -, hnull⟩
    exact ⟨⟨hkind, hconstraints⟩, hnullable.mp hnull⟩
  · rintro ⟨⟨hkind, hconstraints⟩, hnull⟩
    exact ⟨hkind, hconstraints, rfl, hnullable.mpr hnull⟩

end Scalar

/-- Let a property of a model in the result for a document consist of a reference to a component
schema, which is scalar, has a type, and is no reference itself.  In its place the property may have
the component schema written in it; from every state it gets a field then, and so the model or the
property must have a name.  This field admits the same values as the one in the result just if

* the type of the one in the result agrees with the component schema, as it does where all schemas
  that can be read under its name agree; and
* the property is not required, or the component schema does not admit null. -/
theorem reference_like_inline_iff {document : Value} {schemas : List (String × Value)}
    (hs : Document.schemas document = .ok schemas) (hdifferent : (schemas.map (·.1)).Nodup) :
    ∃ s, run document = .ok s ∧
      ∀ m ∈ s.models, ∃ schema shape, Describes document schemas s.models m schema ∧
        Shape.ofSchema document schema = .ok shape ∧
        ∀ f ∈ m.fields, ∃ p ∈ shape.properties, f.name = p.1 ∧
          f.isRequired = shape.required.contains p.1 ∧
          ∀ {r name : String} {target : Value} {t : DataType},
            p.2 = bareReference r → Document.IsComponentRef r →
            referent document (.text r) = .ok (name, target) →
            Schema.isScalar target = true → Schema.ref? target = none →
            outcome (scalar name target) = .ok t → m.name ≠ "" ∨ p.1 ≠ "" →
            (name, target) ∈ schemas ∧
            (∀ build scope s₀, ∃ g s₁,
              (property build scope m.name shape.required p.1 target).run.run s₀ = (.ok (some g), s₁) ∧
              (f.Like g ↔ Agrees f.dataType target ∧
                (f.isRequired = true → Schema.isNullable target = false))) ∧
            ((∀ other u, ReadUnder document schemas name other →
              outcome (scalar name other) = .ok u → Agrees u target) → Agrees f.dataType target) := by
  obtain ⟨U, hrun, -, hreached, haccounts⟩ := run_accounted hs (Setting.within hs hdifferent)
  refine ⟨_, hrun, fun m hm => ?_⟩
  obtain ⟨schema, shape, hdescribes, haccounted⟩ := haccounts.models m hm
  refine ⟨schema, shape, hdescribes, haccounted.ofSchema, fun f hf => ?_⟩
  obtain ⟨p, hp, x, c, t₀, hx, hsource, rfl⟩ := haccounted.fields f hf
  refine ⟨p, hp, rfl, rfl, ?_⟩
  intro r name target t hbare hcomponent hreferent hscalar href ht hname
  rw [hbare] at hx ⊢
  cases (typeSource_reference m.name p.1 hreferent hscalar).symm.trans hx
  obtain ⟨-, htargetName, htarget⟩ := referent_eq_ok hreferent
  have hknown := hsource.known_of_scalar (ref?_bareReference r) hreferent hscalar
  refine ⟨Document.resolve_componentRef hs hcomponent htargetName htarget, fun build scope s₀ => ?_,
    fun hagree => ?_⟩
  · obtain ⟨u, s₁, hu, hproperty⟩ :=
      property_inline build scope s₀ shape.required href hscalar ht hname
    exact ⟨_, s₁, hproperty, like_iff hu p.1 _⟩
  · obtain ⟨other, hread, ht₀⟩ := hreached.known name t₀ hknown
    exact hagree other t₀ hread ht₀

/-- Where no field is a model, there are no inline models. -/
theorem Describes.component_of_scalars {document schema : Value} {schemas : List (String × Value)}
    {models : List Model} {m : Model} (h : Describes document schemas models m schema)
    (hscalars : ∀ m ∈ models, ∀ f ∈ m.fields, f.dataType.kind ≠ .object) :
    (m.name, schema) ∈ schemas := by
  cases h with
  | component _ h => exact h
  | part hwhole _ hpart =>
      obtain ⟨_, f, _, _, _, hf, _, _, _, _, _, _, hkind⟩ := hpart
      exact absurd hkind (hscalars _ hwhole.mem f hf)

/-- A code that may be null. -/
def nullableCode : Value :=
  .map [(.text "type", .text "string"), (.text "minLength", .int 1), (.text "nullable", .bool true)]

/-- A document in which a property that is required refers to it. -/
def nullableReference : Value :=
  .map [(.text "components", .map [(.text "schemas", .map [
    (.text "Code", nullableCode),
    (.text "Pet", .map [(.text "type", .text "object"), (.text "required", .list [.text "code"]),
      (.text "properties", .map [(.text "code",
        bareReference "#/components/schemas/Code")])])])])]

/-- The field of the property does not admit null, and so it is not the one that the property gets
when the code is written in it. -/
theorem nullableReference_differs : ∃ s, run nullableReference = .ok s ∧
    ∃ m ∈ s.models, m.name = "Pet" ∧ ∃ f ∈ m.fields, f.name = "code" ∧ f.isRequired = true ∧
      f.isNullable = false ∧ ∀ build scope s₀, ∃ g s₁,
        (property build scope "Pet" ["code"] "code" nullableCode).run.run s₀ = (.ok (some g), s₁) ∧
          ¬f.Like g := by
  obtain ⟨schemas, hs⟩ : ∃ schemas, Document.schemas nullableReference = .ok schemas := ⟨_, by rfl⟩
  have hkinds : (run nullableReference).map (fun s => s.models.map fun m =>
      (m.name, m.fields.map (·.dataType.kind))) = .ok [("Pet", [.string])] := by
    decide +kernel
  have hflags : (run nullableReference).map (fun s => s.models.map fun m =>
      m.fields.map fun f => (f.name, f.isRequired, f.isNullable)) =
        .ok [[("code", true, false)]] := by
    decide +kernel
  obtain ⟨s, hrun, hmodels⟩ := reference_like_inline_iff hs (by cases hs; decide)
  rw [hrun] at hkinds hflags
  obtain ⟨pet, _, hmodelsEq, hpet, hnil⟩ := List.map_eq_cons_iff.mp (Except.ok.inj hkinds)
  obtain rfl := List.map_eq_nil_iff.mp hnil
  obtain ⟨hname, hpetKinds⟩ := Prod.mk.inj hpet
  obtain ⟨f, _, hf, hkind, -⟩ := List.map_eq_cons_iff.mp hpetKinds
  obtain ⟨hfname, hrequired, hnullable⟩ :
      f.name = "code" ∧ f.isRequired = true ∧ f.isNullable = false := by
    have hpetFlags := Except.ok.inj hflags
    simp only [hmodelsEq, hf, List.map_cons, List.cons.injEq, Prod.mk.injEq] at hpetFlags
    exact hpetFlags.1.1
  have hin : pet ∈ s.models := hmodelsEq ▸ List.mem_cons_self
  have hfin : f ∈ pet.fields := hf ▸ List.mem_cons_self
  refine ⟨s, hrun, pet, hin, hname, f, hfin, hfname, hrequired, hnullable, fun build scope s₀ => ?_⟩
  obtain ⟨schema, shape, hdescribes, hshape, hall⟩ := hmodels pet hin
  have hscalars : ∀ m ∈ s.models, ∀ f ∈ m.fields, f.dataType.kind ≠ .object := by
    intro m hm g hg
    rw [hmodelsEq] at hm
    obtain rfl := List.mem_singleton.mp hm
    have hstring : g.dataType.kind ∈ [Kind.string] := hpetKinds ▸ List.mem_map_of_mem hg
    rw [List.mem_singleton.mp hstring]
    decide
  have hcomponent := hdescribes.component_of_scalars hscalars
  obtain ⟨p, hp, -, -, hreference⟩ := hall f hfin
  rw [hname] at hcomponent hreference
  cases hs
  rcases List.mem_cons.mp hcomponent with h | hcomponent
  · exact absurd (congrArg Prod.fst h) (show ¬"Pet" = "Code" by decide)
  · obtain rfl := congrArg Prod.snd (List.mem_singleton.mp hcomponent)
    cases hshape
    obtain rfl := List.mem_singleton.mp hp
    have hcomponentRef : Document.IsComponentRef "#/components/schemas/Code" :=
      ⟨"Code".toList, by decide, rfl⟩
    obtain ⟨-, hinline, -⟩ := hreference rfl hcomponentRef (by rfl) (by rfl) (by rfl) (by rfl)
      (.inl (by decide))
    obtain ⟨g, s₁, hg, hlike⟩ := hinline build scope s₀
    refine ⟨g, s₁, hg, fun h => ?_⟩
    exact nomatch (hlike.mp h).2 hrequired

end Extraction

end Typewright
