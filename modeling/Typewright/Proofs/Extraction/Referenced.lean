/-
# The types of fields that refer to simple schemas

A reference may lead anywhere in a document, but its type is looked up under the last segment of the
reference alone, and nothing emits the type on behalf of the reference.  So two things can go wrong.

* Schemas that are read under one name share the type of the one that is read first.
* Without a component schema of its name, the type is in the result only if something else under
  that name has been emitted with a model (`Owned`).

`referenced_type_in_result` says exactly when the result has a type of the field's type name that
agrees with the schema that the reference leads to.  It has one where the reference leads to the
component schema of its name and all other schemas that can be read under the name agree.
-/
import Typewright.Extraction.Metadata
import Typewright.Proofs.Extraction.Result

namespace Typewright

namespace Extraction

/-! ## Schemas that are read under a name -/

/-- A component schema, under its name, or what a reference in the document leads to. -/
def ReadUnder (document : Value) (schemas : List (String × Value)) (name : String)
    (schema : Value) : Prop :=
  (name, schema) ∈ schemas ∨
    ∃ r ∈ document.references, referent document (.text r) = .ok (name, schema)

theorem Setting.within {document : Value} {schemas : List (String × Value)}
    (hs : Document.schemas document = .ok schemas) (hnodup : (schemas.map (·.1)).Nodup) :
    Setting document schemas (· ∈ document.references) (ReadUnder document schemas) where
  refersIn := fun _ htarget => Document.refersIn_resolve (fun _ hr => hr) htarget
  read := fun hr hreferent => .inr ⟨_, hr, hreferent⟩
  nodup := hnodup
  component := fun _ hc => .inl hc
  references := Document.refersIn_schemas hs fun _ hr => hr

/-- A type has the kind and the constraints that a schema gives. -/
def Agrees (t : DataType) (schema : Value) : Prop :=
  t.kind = Schema.kind schema ∧
    outcome (Schema.constraints t.name schema (Schema.kind schema)) = .ok t.constraints

/-- A name of a simple component schema that has not failed. -/
def Declared (schemas : List (String × Value)) (ws : List Warning) (name : String) : Prop :=
  ∃ schema, (name, schema) ∈ schemas ∧ Schema.isSimple schema = true ∧
    ∀ why, .failed name why ∉ ws

/-! ## The entry of a name -/

section Entry

variable {document : Value} {unavailable : List String} {schemas : List (String × Value)}
  {R : String → Value → Prop} {s : State} {name : String} {t : DataType}

/-- The type of a reference to a scalar is what is known under its name. -/
theorem Source.known_of_scalar {scope : Scope} {x ref target : Value} (h : Source scope s x t)
    (href : Schema.ref? x = some ref) (hreferent : referent scope.document ref = .ok (name, target))
    (hscalar : Schema.isScalar target = true) : s.known.lookup name = some t := by
  cases h with
  | simple href' hreferent' _ hknown | plain href' hreferent' _ _ hknown _ =>
      cases href.symm.trans href'
      cases hreferent.symm.trans hreferent'
      exact hknown
  | model href' hreferent' _ hcomplex _ _ =>
      cases href.symm.trans href'
      cases hreferent.symm.trans hreferent'
      exact nomatch hscalar.symm.trans (Schema.isScalar_of_isComplex hcomplex)
  | scalar href' _ _ _ | inline href' _ _ _ _ => exact nomatch href.symm.trans href'

theorem Source.known_of_simple {scope : Scope} {x ref target : Value} (h : Source scope s x t)
    (href : Schema.ref? x = some ref) (hreferent : referent scope.document ref = .ok (name, target))
    (hsimple : Schema.isSimple target = true) : s.known.lookup name = some t :=
  h.known_of_scalar href hreferent (Schema.isScalar_of_isSimple hsimple)

/-- The name of a component schema has no entry but the type that is known under it. -/
theorem Accounts.eq_known (hreached : Reached ⟨document, unavailable⟩ R schemas schemas s)
    (h : Accounts ⟨document, unavailable⟩ schemas schemas s) (hin : name ∈ schemas.map (·.1))
    (hknown : s.known.lookup name = some t) {u : DataType} (hu : u ∈ s.dataTypes)
    (hname : u.name = name) : u = t := by
  subst hname
  rcases h.types u hu with ⟨_, _, _, hknown', _⟩ | howned
  · exact Option.some.inj (hknown'.symm.trans hknown)
  · obtain ⟨x, hemits⟩ := howned.emits
    cases hemits with
    | plain _ _ _ _ hknown' =>
        rw [hreached.known.name hknown'] at hknown
        exact Option.some.inj (hknown'.symm.trans hknown)
    | scalar _ _ _ hnot => exact absurd hin hnot

/-- A declared name has an entry, which is the type that is known under it. -/
theorem Declared.entry (hreached : Reached ⟨document, unavailable⟩ R schemas schemas s)
    (haccounts : Accounts ⟨document, unavailable⟩ schemas schemas s)
    (hknown : s.known.lookup name = some t) (h : Declared schemas s.warnings name) :
    t ∈ s.dataTypes := by
  obtain ⟨schema, hin, hsimple, hgood⟩ := h
  rcases (hreached.became _ hin).simple hsimple with ⟨_, _, hmem, _⟩ | ⟨why, _, hfailed⟩
  · obtain ⟨u, hu, hname⟩ := List.mem_map.mp hmem
    exact haccounts.eq_known hreached (List.mem_map_of_mem hin) hknown hu hname ▸ hu
  · exact absurd hfailed (hgood why)

/-- A simple component schema that has a type is declared. -/
theorem Reached.declared (hreached : Reached ⟨document, unavailable⟩ R schemas schemas s)
    {schema : Value} (hin : (name, schema) ∈ schemas) (hsimple : Schema.isSimple schema = true)
    (ht : outcome (scalar name schema) = .ok t) : Declared schemas s.warnings name := by
  rcases (hreached.became _ hin).simple hsimple with ⟨_, _, _, hgood⟩ | ⟨why, hwhy, _⟩
  · exact ⟨schema, hin, hsimple, hgood⟩
  · exact nomatch ht.symm.trans hwhy

/-- When the result has a type of a name that agrees with a schema, where a type is known under the
name. -/
theorem Accounts.agreeing_entry_iff
    (hreached : Reached ⟨document, unavailable⟩ R schemas schemas s)
    (h : Accounts ⟨document, unavailable⟩ schemas schemas s)
    (hknown : s.known.lookup name = some t) (target : Value) :
    (∃ u ∈ s.dataTypes, u.name = name ∧ Agrees u target) ↔
      (Declared schemas s.warnings name ∧ Agrees t target) ∨
      (¬Declared schemas s.warnings name ∧ ∃ u ∈ s.dataTypes, u.name = name ∧ Agrees u target ∧
        Owned document (Describes document schemas s.models) s.models (schemas.map (·.1)) s u) := by
  constructor
  · rintro ⟨u, hu, hname, hagrees⟩
    by_cases hdeclared : Declared schemas s.warnings name
    · obtain ⟨schema, hin, -⟩ := id hdeclared
      have heq := h.eq_known hreached (List.mem_map_of_mem hin) hknown hu hname
      exact .inl ⟨hdeclared, heq ▸ hagrees⟩
    · refine .inr ⟨hdeclared, u, hu, hname, hagrees, ?_⟩
      rcases h.types u hu with ⟨schema, hin, hsimple, -, hgood⟩ | howned
      · exact absurd ⟨schema, hname ▸ hin, hsimple, hname ▸ hgood⟩ hdeclared
      · exact howned
  · rintro (⟨hdeclared, hagrees⟩ | ⟨-, u, hu, hname, hagrees, -⟩)
    · exact ⟨t, hdeclared.entry hreached h hknown, hreached.known.name hknown, hagrees⟩
    · exact ⟨u, hu, hname, hagrees⟩

end Entry

/-- In the result for a document, the type of a field that refers to a simple schema has the last
segment of the reference as its name, and comes from a schema that is read under that name. The
result has a type of that name with the kind and the constraints of the schema that is referred to
just if

* the name is that of a simple component schema that has not failed, and the field's own type agrees
  with the schema; or
* it is not, and a type of that name that agrees with the schema has been emitted for an inline
  scalar or for a reference to a plain scalar.

It does where the reference leads to the component schema of its name and every other type that can
be read under the name agrees with it. -/
theorem referenced_type_in_result {document : Value} {schemas : List (String × Value)}
    (hs : Document.schemas document = .ok schemas) (hdifferent : (schemas.map (·.1)).Nodup) :
    ∃ s, run document = .ok s ∧
      types document =
        .ok { dataTypes := s.dataTypes, models := s.models, warnings := s.warnings } ∧
      ∀ m ∈ s.models, ∃ schema shape, Describes document schemas s.models m schema ∧
        Shape.ofSchema document schema = .ok shape ∧
        ∀ f ∈ m.fields, ∃ p ∈ shape.properties, f.name = p.1 ∧
          ∀ {x ref target : Value} {name : String} {isCollection : Bool},
            typeSource document m.name p.1 p.2 = .ok (x, isCollection) →
            Schema.ref? x = some ref → referent document ref = .ok (name, target) →
            Schema.isSimple target = true →
            f.dataType.name = name ∧
            (∃ other, ReadUnder document schemas name other ∧
              outcome (scalar name other) = .ok f.dataType) ∧
            ((∃ u ∈ s.dataTypes, u.name = name ∧ Agrees u target) ↔
              (Declared schemas s.warnings name ∧ Agrees f.dataType target) ∨
              (¬Declared schemas s.warnings name ∧
                ∃ u ∈ s.dataTypes, u.name = name ∧ Agrees u target ∧
                  Owned document (Describes document schemas s.models) s.models
                    (schemas.map (·.1)) s u)) ∧
            ((name, target) ∈ schemas →
              (∀ other t, ReadUnder document schemas name other →
                outcome (scalar name other) = .ok t → Agrees t target) →
              ∃ u ∈ s.dataTypes, u.name = name ∧ Agrees u target) := by
  obtain ⟨U, hrun, -, hreached, haccounts⟩ := run_accounted hs (Setting.within hs hdifferent)
  refine ⟨_, hrun, by rw [types, hrun]; rfl, fun m hm => ?_⟩
  obtain ⟨schema, shape, hdescribes, haccounted⟩ := haccounts.models m hm
  refine ⟨schema, shape, hdescribes, haccounted.ofSchema, fun f hf => ?_⟩
  obtain ⟨p, hp, y, c, t, hy, hsource, rfl⟩ := haccounted.fields f hf
  refine ⟨p, hp, rfl, ?_⟩
  intro x ref target name isCollection hx href hreferent hsimple
  cases hy.symm.trans hx
  have hknown := hsource.known_of_simple href hreferent hsimple
  have hiff := haccounts.agreeing_entry_iff hreached hknown target
  refine ⟨hreached.known.name hknown, hreached.known name t hknown, hiff, fun hin hagree => ?_⟩
  obtain ⟨other, hread, ht⟩ := hreached.known name t hknown
  obtain ⟨-, hconstraints⟩ := hagree other t hread ht
  have htarget := (Schema.outcome_scalarType_eq_ok t.name).mpr
    ⟨((Schema.outcome_scalarType_eq_ok t.name).mp ht).1, _, hconstraints, rfl⟩
  exact hiff.mpr (.inl ⟨hreached.declared hin hsimple htarget, hagree other t hread ht⟩)

/-- A document in which a property refers to a property of another component schema. -/
def nestedReference : Value :=
  .map [(.text "components", .map [(.text "schemas", .map [
    (.text "User", .map [(.text "type", .text "object"), (.text "properties", .map [
      (.text "id", .map [(.text "type", .text "string"), (.text "minLength", .int 1)])])]),
    (.text "Pet", .map [(.text "type", .text "object"), (.text "properties", .map [(.text "owner",
      .map [(.text "$ref", .text "#/components/schemas/User/properties/id")])])])])])]

/-- The type of the property is in no entry of the result. -/
theorem nestedReference_dangles : ∃ s, run nestedReference = .ok s ∧
    s.dataTypes.map (·.name) = ["UserId"] ∧
    ∃ m ∈ s.models, m.name = "Pet" ∧ ∃ f ∈ m.fields, f.dataType.name = "id" := by
  obtain ⟨schemas, hs⟩ : ∃ schemas, Document.schemas nestedReference = .ok schemas := ⟨_, by rfl⟩
  have hkinds : (run nestedReference).map (fun s => (s.dataTypes.map (·.name),
      s.models.map fun m => (m.name, m.fields.map (·.dataType.kind)))) =
      .ok (["UserId"], [("User", [.string]), ("Pet", [.string])]) := by
    decide +kernel
  obtain ⟨s, hrun, -, hmodels⟩ := referenced_type_in_result hs (by cases hs; decide)
  rw [hrun] at hkinds
  obtain ⟨htypes, hkinds⟩ := Prod.mk.inj (Except.ok.inj hkinds)
  obtain ⟨user, _, hmodelsEq, huser, hrest⟩ := List.map_eq_cons_iff.mp hkinds
  obtain ⟨pet, _, rfl, hpet, hnil⟩ := List.map_eq_cons_iff.mp hrest
  obtain rfl := List.map_eq_nil_iff.mp hnil
  obtain ⟨hname, hpetKinds⟩ := Prod.mk.inj hpet
  obtain ⟨f, _, hfields, -, -⟩ := List.map_eq_cons_iff.mp hpetKinds
  have hf : f ∈ pet.fields := hfields ▸ List.mem_cons_self
  have hin : pet ∈ s.models := by simp [hmodelsEq]
  obtain ⟨schema, shape, hdescribes, hshape, hall⟩ := hmodels pet hin
  refine ⟨s, hrun, htypes, pet, hin, hname, f, hf, ?_⟩
  have hscalars : ∀ e ∈ s.models.map (fun m => (m.name, m.fields.map (·.dataType.kind))),
      .object ∉ e.2 := by
    rw [hkinds]
    decide
  have hcomponent : (pet.name, schema) ∈ schemas := by
    cases hdescribes with
    | component _ h => exact h
    | part hwhole _ hpart =>
        -- no field is a model
        obtain ⟨_, g, _, _, _, hg, _, _, _, _, _, _, hkind⟩ := hpart
        exact absurd (hkind ▸ List.mem_map_of_mem hg)
          (hscalars _ (List.mem_map_of_mem hwhole.mem))
  obtain ⟨p, hp, -, hreference⟩ := hall f hf
  rw [hname] at hcomponent hreference
  cases hs
  rcases List.mem_cons.mp hcomponent with h | hcomponent
  · exact absurd (congrArg Prod.fst h) (show ¬"Pet" = "User" by decide)
  · obtain rfl := congrArg Prod.snd (List.mem_singleton.mp hcomponent)
    cases hshape
    obtain rfl := List.mem_singleton.mp hp
    exact (hreference (by rfl) (by rfl) (by rfl) (by rfl)).1

end Extraction

end Typewright
