/-
# What building a model changes

Building a model never touches what has been emitted.  It only gathers: names that are taken, types
that are known under a name, and warnings about facets and properties.  `Grows` says so of two
states, and holds of the states before and after the model of any schema, whether or not the model
succeeds (`modelWithin_grows`).

Two of its parts tie later proofs together.  A type that becomes known under a name comes from a
schema that was read under that name (`Grows.read`), and a property that is left out belongs to the
model itself or to an inline model whose name was free before (`Grows.warnings`).
-/
import Typewright.Proofs.Document.Reference
import Typewright.Proofs.Extraction.Unavailable
import Typewright.Proofs.Name.Fresh
import Typewright.Proofs.Schema.Shape

namespace Typewright.Extraction

/-! ## Growth -/

/-- What may be noted while models are built: facets, and properties of some models that are left
out. -/
inductive Noted (scope : Scope) (O : String → Prop) : Warning → Prop
  | facet {w : Warning} : w.isFacet → Noted scope O w
  | shape {m p : String} : O m → Noted scope O (.propertyShape m p)
  | unavailable {m p target : String} : O m → target ∈ scope.unavailable →
      Noted scope O (.propertyUnavailable m p target)
  | untyped {m p : String} : O m → Noted scope O (.propertyUntyped m p)

theorem Noted.mono {scope : Scope} {O O' : String → Prop} (h : ∀ m, O m → O' m) {w : Warning} :
    Noted scope O w → Noted scope O' w
  | .facet hw => .facet hw
  | .shape hm => .shape (h _ hm)
  | .unavailable hm ht => .unavailable (h _ hm) ht
  | .untyped hm => .untyped (h _ hm)

/-- How a state may differ from an earlier one while the model of an owner is built. `R` holds of a
name and a schema that is read under it. -/
structure Grows (scope : Scope) (R : String → Value → Prop) (owner : String) (s s' : State) :
    Prop where
  dataTypes : s'.dataTypes = s.dataTypes
  models : s'.models = s.models
  failed : s'.failed = s.failed
  taken : s.taken ⊆ s'.taken
  pendingTypes : s.pendingTypes <+: s'.pendingTypes
  pendingModels : s.pendingModels <+: s'.pendingModels
  known : ∀ {name t}, s.known.lookup name = some t → s'.known.lookup name = some t
  read : ∀ {name t}, s'.known.lookup name = some t → s.known.lookup name = some t ∨
    ∃ schema, R name schema ∧ Schema.isScalar schema = true ∧ outcome (scalar name schema) = .ok t
  warnings : ∃ ws, s'.warnings = s.warnings ++ ws ∧
    ∀ w ∈ ws, Noted scope (fun m => m = owner ∨ m ∉ s.taken ∧ m ∈ s'.taken) w

namespace Grows

variable {scope : Scope} {R : String → Value → Prop} {owner : String} {s s' s'' : State}

theorem refl (s : State) : Grows scope R owner s s :=
  ⟨rfl, rfl, rfl, fun _ h => h, List.prefix_rfl, List.prefix_rfl, id, .inl, [],
    (List.append_nil _).symm, fun _ h => absurd h List.not_mem_nil⟩

theorem trans (h : Grows scope R owner s s') (h' : Grows scope R owner s' s'') :
    Grows scope R owner s s'' where
  dataTypes := h'.dataTypes.trans h.dataTypes
  models := h'.models.trans h.models
  failed := h'.failed.trans h.failed
  taken := fun _ hn => h'.taken (h.taken hn)
  pendingTypes := h.pendingTypes.trans h'.pendingTypes
  pendingModels := h.pendingModels.trans h'.pendingModels
  known := fun hn => h'.known (h.known hn)
  read := fun hn => (h'.read hn).elim h.read .inr
  warnings := by
    obtain ⟨ws, hws, hnoted⟩ := h.warnings
    obtain ⟨ws', hws', hnoted'⟩ := h'.warnings
    refine ⟨ws ++ ws', by rw [hws', hws, List.append_assoc], fun w hw => ?_⟩
    rcases List.mem_append.mp hw with hw | hw
    · exact (hnoted w hw).mono fun m hm => hm.imp id fun hm => ⟨hm.1, h'.taken hm.2⟩
    · exact (hnoted' w hw).mono fun m hm => hm.imp id fun hm => ⟨fun hs => hm.1 (h.taken hs), hm.2⟩

theorem noted {ws : List Warning} (h : ∀ w ∈ ws, Noted scope (· = owner) w) :
    Grows scope R owner s (s.noted ws) :=
  ⟨rfl, rfl, rfl, fun _ h => h, List.prefix_rfl, List.prefix_rfl, id, .inl, ws, rfl,
    fun w hw => (h w hw).mono fun _ => .inl⟩

theorem took (name : String) : Grows scope R owner s (s.took name) :=
  ⟨rfl, rfl, rfl, List.subset_cons_self _ _, List.prefix_rfl, List.prefix_rfl, id, .inl, [],
    (List.append_nil _).symm, fun _ h => absurd h List.not_mem_nil⟩

theorem pended (t : DataType) : Grows scope R owner s (s.pended t) :=
  ⟨rfl, rfl, rfl, fun _ h => h, List.prefix_append _ _, List.prefix_rfl, id, .inl, [],
    (List.append_nil _).symm, fun _ h => absurd h List.not_mem_nil⟩

theorem pendedModel (m : Model) : Grows scope R owner s (s.pendedModel m) :=
  ⟨rfl, rfl, rfl, fun _ h => h, List.prefix_rfl, List.prefix_append _ _, id, .inl, [],
    (List.append_nil _).symm, fun _ h => absurd h List.not_mem_nil⟩

theorem learned {name : String} {schema : Value} {t : DataType}
    (hnew : s.known.lookup name = none) (hread : R name schema)
    (hscalar : Schema.isScalar schema = true) (ht : outcome (scalar name schema) = .ok t) :
    Grows scope R owner s (s.learned name t) where
  dataTypes := rfl
  models := rfl
  failed := rfl
  taken := fun _ h => h
  pendingTypes := List.prefix_rfl
  pendingModels := List.prefix_rfl
  known := fun {n _} hn => by
    have hne : (n == name) = false := by
      simpa using fun h : n = name => by simp [← h, hn] at hnew
    simpa [State.learned, List.lookup_cons, hne] using hn
  read := fun {n _} hn => by
    by_cases h : n = name
    · subst h
      obtain rfl := by simpa [State.learned, List.lookup_cons] using hn
      exact .inr ⟨schema, hread, hscalar, ht⟩
    · have hne : (n == name) = false := by simpa using h
      exact .inl (by simpa [State.learned, List.lookup_cons, hne] using hn)
  warnings := ⟨[], (List.append_nil _).symm, fun _ h => absurd h List.not_mem_nil⟩

/-- What an inline model changes is changed for the model that it is a part of. -/
theorem inline {name : String} (hfree : name ∉ s.taken)
    (h : Grows scope R name (s.took name) s') : Grows scope R owner s s' where
  dataTypes := h.dataTypes
  models := h.models
  failed := h.failed
  taken := fun _ hn => h.taken (List.mem_cons_of_mem _ hn)
  pendingTypes := h.pendingTypes
  pendingModels := h.pendingModels
  known := h.known
  read := h.read
  warnings := by
    obtain ⟨ws, hws, hnoted⟩ := h.warnings
    refine ⟨ws, hws, fun w hw => (hnoted w hw).mono ?_⟩
    rintro m (rfl | ⟨hm, hm'⟩)
    · exact .inr ⟨hfree, h.taken List.mem_cons_self⟩
    · exact .inr ⟨fun hs => hm (List.mem_cons_of_mem _ hs), hm'⟩

end Grows

/-! ## Relations that work keeps -/

section Keeps

variable {α β : Type} {P : State → State → Prop}

/-- The state after some work, however it ends, stands in a relation to the state before it. -/
def Keeps (P : State → State → Prop) (x : Extracting α) : Prop := ∀ s, P s (x.run.run s).2

theorem Keeps.bind (htrans : ∀ {a b c}, P a b → P b c → P a c) {x : Extracting α}
    {f : α → Extracting β} (hx : Keeps P x) (hf : ∀ a, Keeps P (f a)) : Keeps P (x >>= f) := by
  intro s
  have hs := hx s
  rw [run_bind]
  revert hs
  rcases x.run.run s with ⟨_ | a, s'⟩
  · exact id
  · exact fun hs => htrans hs (hf a s')

end Keeps

/-! ## Reading

What can be read under a name depends on the references that the schemas hold. -/

/-- References that satisfy `A` lead to schemas whose references do, and a schema that one of them
leads to is read under a name as `R` says. -/
structure Reading (document : Value) (A : String → Prop) (R : String → Value → Prop) : Prop where
  refersIn : ∀ {r target}, A r → Document.resolve document (.text r) = .ok target →
    target.RefersIn A
  read : ∀ {r name target}, A r → referent document (.text r) = .ok (name, target) → R name target

/-- What any reference leads to. -/
def Referred (document : Value) (name : String) (target : Value) : Prop :=
  ∃ ref, referent document ref = .ok (name, target)

theorem Reading.any (document : Value) : Reading document (fun _ => True) (Referred document) :=
  ⟨fun _ _ _ _ => trivial, fun _ h => ⟨_, h⟩⟩

theorem referent_eq_ok {document ref target : Value} {name : String}
    (h : referent document ref = .ok (name, target)) :
    (∃ r, ref = .text r) ∧ Document.targetName ref = .ok name ∧
      Document.resolve document ref = .ok target := by
  unfold referent at h
  split at h
  · exact nomatch h
  · rename_i n hn
    split at h
    · exact nomatch h
    · rename_i v hv
      cases h
      obtain ⟨r, _, hr, _⟩ := Document.resolve_eq_ok hv
      exact ⟨⟨r, hr⟩, hn, hv⟩

section Reading

variable {document : Value} {A : String → Prop} {R : String → Value → Prop}

theorem Reading.read_ref? (h : Reading document A R) {schema ref target : Value} {name : String}
    (hschema : schema.RefersIn A) (href : Schema.ref? schema = some ref)
    (hreferent : referent document ref = .ok (name, target)) : R name target := by
  obtain ⟨⟨r, rfl⟩, -, -⟩ := referent_eq_ok hreferent
  exact h.read (hschema.ref? href) hreferent

theorem Reading.refersIn_arraySchema (h : Reading document A R) {schema array : Value}
    (hschema : schema.RefersIn A) (harray : arraySchema document schema = .ok (some array)) :
    array.RefersIn A := by
  unfold arraySchema at harray
  dsimp only at harray
  split at harray
  · split at harray
    · cases harray
      exact hschema
    · exact nomatch harray
  · rename_i ref href
    split at harray
    · exact nomatch harray
    · rename_i target htarget
      obtain ⟨r, _, rfl, _⟩ := Document.resolve_eq_ok htarget
      have hboth : (if Schema.type? target == some "array" then target else schema).RefersIn A := by
        split
        · exact h.refersIn (hschema.ref? href) htarget
        · exact hschema
      generalize (if Schema.type? target == some "array" then target else schema) = effective
        at harray hboth
      split at harray
      · cases harray
        exact hboth
      · exact nomatch harray

theorem Reading.refersIn_typeSource (h : Reading document A R) {owner property : String}
    {schema x : Value} {isCollection : Bool} (hschema : schema.RefersIn A)
    (hx : typeSource document owner property schema = .ok (x, isCollection)) : x.RefersIn A := by
  unfold typeSource at hx
  split at hx
  · exact nomatch hx
  · cases hx
    exact hschema
  · rename_i array harray
    dsimp only at hx
    split at hx
    · cases hx
      exact (h.refersIn_arraySchema hschema harray).get "items"
    · exact nomatch hx

end Reading

/-! ## Growth, piece by piece -/

section Work

variable {scope : Scope} {A : String → Prop} {R : String → Value → Prop} {owner : String}

theorem namedType_grows {name : String} {schema : Value} (hread : R name schema)
    (hscalar : Schema.isScalar schema = true) :
    Keeps (Grows scope R owner) (namedType name schema) := by
  intro s
  have hnoted : Grows scope R owner s (s.noted (notes (scalar name schema))) :=
    .noted fun w hw => .facet ((scalar_notes name schema).facet w hw)
  rw [run_namedType]
  cases hname : s.known.lookup name with
  | some t => exact .refl s
  | none =>
      cases ht : outcome (scalar name schema) with
      | error e => exact hnoted
      | ok t => exact hnoted.trans (.learned hname hread hscalar ht)

theorem plainType_grows {name : String} {schema : Value} (hread : R name schema)
    (hscalar : Schema.isScalar schema = true) :
    Keeps (Grows scope R owner) (plainType name schema) := by
  intro s
  have hnamed : Grows scope R owner s _ := namedType_grows hread hscalar s
  rw [run_plainType]
  revert hnamed
  rcases (namedType name schema).run.run s with ⟨e | t, s'⟩
  · exact id
  · dsimp only
    split
    · exact id
    · exact fun hnamed => hnamed.trans (.pended t)

theorem referenceType_grows {ref : Value}
    (hread : ∀ {name target}, referent scope.document ref = .ok (name, target) → R name target) :
    Keeps (Grows scope R owner) (referenceType scope ref) := by
  intro s
  rw [run_referenceType]
  split
  · exact .refl s
  · rename_i name target hreferent
    split
    · rename_i hsimple
      have hnamed : Grows scope R owner s _ :=
        namedType_grows (hread hreferent) (Schema.isScalar_of_isSimple hsimple) s
      revert hnamed
      rcases (namedType name target).run.run s with ⟨e | t, s'⟩ <;> exact id
    · split
      · exact .refl s
      · split
        · exact .refl s
        · split <;> exact .refl s
      · split
        · rename_i hplain
          exact plainType_grows (hread hreferent) (Schema.isScalar_of_isPlain hplain) s
        · exact .refl s

theorem typeOf_grows (h : Reading scope.document A R) {build : Builder} (hint : String)
    {schema : Value} (hschema : schema.RefersIn A)
    (hbuild : ∀ name, Keeps (Grows scope R name) (build name schema)) :
    Keeps (Grows scope R owner) (typeOf build scope hint schema) := by
  intro s
  have hfree := Name.fresh_not_mem s.taken (Name.pascal hint)
  rw [run_typeOf]
  split
  · rename_i ref href
    exact referenceType_grows (h.read_ref? hschema href) s
  · generalize Name.fresh s.taken (Name.pascal hint) = name at hfree
    have hnoted : Grows scope R owner s ((s.took name).noted (notes (scalar name schema))) :=
      (Grows.took name).trans (.noted fun w hw => .facet ((scalar_notes name schema).facet w hw))
    dsimp only
    split
    · split
      · exact hnoted.trans (.pended _)
      · exact hnoted
    · split
      · exact .refl s
      · exact .refl s
      · have hmodel : Grows scope R owner s _ := (hbuild name (s.took name)).inline hfree
        revert hmodel
        rcases (build name schema).run.run (s.took name) with ⟨e | m, s'⟩
        · exact id
        · exact fun hmodel => hmodel.trans (.pendedModel m)

theorem propertyType_grows (h : Reading scope.document A R) {build : Builder} (property : String)
    {schema : Value} (hschema : schema.RefersIn A)
    (hbuild : ∀ name x, x.RefersIn A → Keeps (Grows scope R name) (build name x)) :
    Keeps (Grows scope R owner) (propertyType build scope owner property schema) := by
  intro s
  rw [run_propertyType]
  split
  · exact .refl s
  · rename_i x isCollection hx
    have hx' := h.refersIn_typeSource hschema hx
    have htype : Grows scope R owner s _ :=
      typeOf_grows h (hint owner property x isCollection) hx' (fun name => hbuild name x hx') s
    revert htype
    rcases (typeOf build scope (hint owner property x isCollection) x).run.run s with ⟨e | t, s'⟩
      <;> exact id

theorem property_grows (h : Reading scope.document A R) {build : Builder} (required : List String)
    (name : String) {schema : Value} (hschema : schema.RefersIn A)
    (hbuild : ∀ name x, x.RefersIn A → Keeps (Grows scope R name) (build name x))
    (hnever : ∀ x name, NeverUnavailable (build name x)) :
    Keeps (Grows scope R owner) (property build scope owner required name schema) := by
  intro s
  rw [run_property]
  split
  · have htype : Grows scope R owner s _ :=
      propertyType_grows h name hschema hbuild s
    rcases hrun : (propertyType build scope owner name schema).run.run s with ⟨e | ⟨_ | t, c⟩, s'⟩
    · rw [hrun] at htype
      split
      · rename_i heq; exact nomatch heq
      · rename_i heq; exact nomatch heq
      · rename_i target s₁ heq
        cases heq
        have hmem := (propertyType_unavailable hnever hrun).2
        exact htype.trans (.noted fun w hw => List.mem_singleton.mp hw ▸ .unavailable rfl hmem)
      · rename_i heq
        cases heq
        exact htype
    · rw [hrun] at htype
      exact htype.trans (.noted fun w hw => List.mem_singleton.mp hw ▸ .untyped rfl)
    · rw [hrun] at htype
      exact htype
  · exact .noted fun w hw => List.mem_singleton.mp hw ▸ .shape rfl

theorem properties_grows (h : Reading scope.document A R) {build : Builder}
    (required : List String)
    (hbuild : ∀ name x, x.RefersIn A → Keeps (Grows scope R name) (build name x))
    (hnever : ∀ x name, NeverUnavailable (build name x)) :
    ∀ ps : List (String × Value), (∀ p ∈ ps, p.2.RefersIn A) →
      Keeps (Grows scope R owner) (properties build scope owner required ps)
  | [], _ => fun s => .refl s
  | p :: rest, hps =>
      .bind .trans (property_grows h required p.1 (hps p List.mem_cons_self) hbuild hnever) fun _ =>
        .bind .trans
          (properties_grows h required hbuild hnever rest fun q hq =>
            hps q (List.mem_cons_of_mem _ hq))
          fun _ s => .refl s

/-- Building a model only gathers, whether or not the model succeeds. -/
theorem modelWithin_grows (h : Reading scope.document A R) :
    ∀ (depth : Nat) (name : String) (schema : Value), schema.RefersIn A →
      Keeps (Grows scope R name) (modelWithin scope depth name schema)
  | 0, _, _, _ => fun s => .refl s
  | depth + 1, name, schema, hschema => by
      intro s
      rw [modelWithin_succ, run_modelWith]
      split
      · exact .refl s
      · rename_i shape hshape
        have hps := Shape.refersIn_properties h.refersIn hschema hshape
        have hproperties : Grows scope R name s _ :=
          properties_grows h shape.required (modelWithin_grows h depth)
            (fun x n => modelWithin_never depth n x) shape.properties hps s
        revert hproperties
        rcases (properties (modelWithin scope depth) scope name shape.required
          shape.properties).run.run s with ⟨e | fields, s'⟩
        · exact id
        · dsimp only
          split <;> exact id

end Work

end Typewright.Extraction
