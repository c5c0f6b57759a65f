/-
# What the models of a pass say of themselves

Each model that a pass emits can be accounted for (`Accounted`): there is a schema whose properties
have been dealt with one after the other, each of them a field or a warning (`Dealt`), and the type
of each field comes from somewhere (`Source`).  `Describes` says which schema that is, for inline
models by way of the models that they are parts of.

A source is found while a model is built and has to last: what is known stays known, and what is
pending is emitted with the model.  `Carries` is the relation between states that sources last
through.
-/
import Typewright.Proofs.Extraction.Pass

namespace Typewright.Extraction

/-! ## Sources -/

/-- The names of the types that are emitted or pending. -/
def State.typeNames (s : State) : List String := (s.dataTypes ++ s.pendingTypes).map (·.name)

/-- The names of the models that are emitted or pending. -/
def State.modelNames (s : State) : List String := (s.models ++ s.pendingModels).map (·.name)

/-- Where the type of a schema comes from. -/
inductive Source (scope : Scope) (s : State) (x : Value) (t : DataType) : Prop
  | simple {ref target : Value} {name : String} :
      Schema.ref? x = some ref → referent scope.document ref = .ok (name, target) →
      Schema.isSimple target = true → s.known.lookup name = some t → Source scope s x t
  | model {ref target : Value} {name : String} :
      Schema.ref? x = some ref → referent scope.document ref = .ok (name, target) →
      Schema.isSimple target = false → Schema.isComplex scope.document target = .ok true →
      name ∉ scope.unavailable → Schema.modelReference name target = .ok t → Source scope s x t
  | plain {ref target : Value} {name : String} :
      Schema.ref? x = some ref → referent scope.document ref = .ok (name, target) →
      Schema.isSimple target = false → Schema.isPlain target = true →
      s.known.lookup name = some t → t.name ∈ s.typeNames → Source scope s x t
  | scalar : Schema.ref? x = none → Schema.isScalar x = true →
      outcome (scalar t.name x) = .ok t → t.name ∈ s.typeNames → Source scope s x t
  | inline : Schema.ref? x = none → Schema.isScalar x = false →
      Schema.isComplex scope.document x = .ok true → Schema.modelReference t.name x = .ok t →
      t.name ∈ s.modelNames → Source scope s x t

/-- A later state in which every source lasts. -/
structure Carries (s s' : State) : Prop where
  known : ∀ {n t}, s.known.lookup n = some t → s'.known.lookup n = some t
  typeNames : s.typeNames ⊆ s'.typeNames
  modelNames : s.modelNames ⊆ s'.modelNames

section Carries

variable {scope : Scope} {R : String → Value → Prop} {owner name : String} {s s' s'' : State}

theorem Carries.trans (h : Carries s s') (h' : Carries s' s'') : Carries s s'' where
  known := fun hn => h'.known (h.known hn)
  typeNames := fun _ hn => h'.typeNames (h.typeNames hn)
  modelNames := fun _ hn => h'.modelNames (h.modelNames hn)

theorem Grows.carries (h : Grows scope R owner s s') : Carries s s' where
  known := h.known
  typeNames := by
    unfold State.typeNames
    rw [h.dataTypes]
    exact ((List.prefix_append_right_inj _).mpr h.pendingTypes |>.map _).subset
  modelNames := by
    unfold State.modelNames
    rw [h.models]
    exact ((List.prefix_append_right_inj _).mpr h.pendingModels |>.map _).subset

theorem Later.carries (h : Later scope R name s s') (htypes : s.pendingTypes = [])
    (hmodels : s.pendingModels = []) : Carries s s' where
  known := h.known
  typeNames := by
    unfold State.typeNames
    rw [htypes, h.idleTypes, List.append_nil, List.append_nil]
    exact (h.dataTypes.map _).subset
  modelNames := by
    unfold State.modelNames
    rw [hmodels, h.idleModels, List.append_nil, List.append_nil]
    exact (h.models.map _).subset

theorem carries_finished (s : State) (name : String) (m : Model) :
    Carries s (s.finished name m) where
  known := id
  typeNames := fun n hn => by
    unfold State.typeNames State.finished
    rw [List.append_nil]
    exact (mem_names_emitAll _ _).mpr hn
  modelNames := fun n hn => by
    unfold State.modelNames State.finished at *
    rw [List.append_nil, ← List.append_assoc, List.map_append]
    exact List.mem_append_left _ hn

theorem Source.mono (hcarries : Carries s s') {x : Value} {t : DataType} :
    Source scope s x t → Source scope s' x t
  | .simple href hreferent hsimple hknown =>
      .simple href hreferent hsimple (hcarries.known hknown)
  | .model href hreferent hsimple hcomplex havailable ht =>
      .model href hreferent hsimple hcomplex havailable ht
  | .plain href hreferent hsimple hplain hknown hname =>
      .plain href hreferent hsimple hplain (hcarries.known hknown) (hcarries.typeNames hname)
  | .scalar href hscalar ht hname => .scalar href hscalar ht (hcarries.typeNames hname)
  | .inline href hscalar hcomplex ht hname =>
      .inline href hscalar hcomplex ht (hcarries.modelNames hname)

end Carries

/-! ## Properties that are dealt with in turn -/

/-- Names that are dealt with in turn: each of them becomes a field or is left out. -/
inductive Dealt : List String → List String → List String → Prop
  | nil : Dealt [] [] []
  | field {n : String} {names fields skipped : List String} :
      Dealt names fields skipped → Dealt (n :: names) (n :: fields) skipped
  | skip {n : String} {names fields skipped : List String} :
      Dealt names fields skipped → Dealt (n :: names) fields (n :: skipped)

/-- The properties of an owner that some warnings say are left out. -/
def skippedOf (owner : String) (ws : List Warning) : List String :=
  ws.filterMap fun w => match w.skipped? with
    | some (m, p) => if m == owner then some p else none
    | none => none

section Skipped

variable {scope : Scope} {R : String → Value → Prop} {owner name : String} {s s' : State}

theorem skippedOf_append (owner : String) (ws ws' : List Warning) :
    skippedOf owner (ws ++ ws') = skippedOf owner ws ++ skippedOf owner ws' :=
  List.filterMap_append

theorem skippedOf_eq_nil {ws : List Warning}
    (h : ∀ w ∈ ws, ∀ p, w.skipped? ≠ some (owner, p)) : skippedOf owner ws = [] := by
  refine List.filterMap_eq_nil_iff.mpr fun w hw => ?_
  cases hskip : w.skipped? with
  | none => rfl
  | some mp =>
      obtain ⟨m, p⟩ := mp
      have hne : (m == owner) = false := by
        simpa using fun hm : m = owner => h w hw p (hm ▸ hskip)
      simp [hne]

/-- Warnings about other things leave out nothing. -/
theorem skippedOf_append_others {ws ws' : List Warning}
    (h : ∀ w ∈ ws', ∀ p, w.skipped? ≠ some (owner, p)) :
    skippedOf owner (ws ++ ws') = skippedOf owner ws := by
  rw [skippedOf_append, skippedOf_eq_nil h, List.append_nil]

theorem isFacet_skipped {w : Warning} (h : w.isFacet = true) : w.skipped? = none := by
  cases w <;> first | rfl | simp [Warning.isFacet] at h

theorem Noted.skipped {O : String → Prop} {w : Warning} {m p : String} (h : Noted scope O w)
    (hw : w.skipped? = some (m, p)) : O m := by
  cases h with
  | facet h => exact nomatch (isFacet_skipped h).symm.trans hw
  | shape h => cases hw; exact h
  | unavailable h _ => cases hw; exact h
  | untyped h => cases hw; exact h

theorem AboutSchema.skipped {w : Warning} (h : AboutSchema name w) : w.skipped? = none := by
  cases h <;> rfl

/-- Building a model leaves out no properties of other models that have a name by then. -/
theorem Grows.skippedOf (h : Grows scope R owner s s') {n : String} (hn : n ∈ s.taken)
    (hne : n ≠ owner) :
    Extraction.skippedOf n s'.warnings = Extraction.skippedOf n s.warnings := by
  obtain ⟨ws, hws, hnoted⟩ := h.warnings
  rw [hws]
  refine skippedOf_append_others fun w hw p hskip => ?_
  rcases (hnoted w hw).skipped hskip with h | ⟨h, -⟩
  · exact hne h
  · exact h hn

theorem Later.skippedOf (h : Later scope R name s s') {n : String} (hn : n ∈ s.taken)
    (hne : n ≠ name) :
    Extraction.skippedOf n s'.warnings = Extraction.skippedOf n s.warnings := by
  obtain ⟨ws, hws, habout⟩ := h.warnings
  rw [hws]
  refine skippedOf_append_others fun w hw p hskip => ?_
  rcases habout w hw with h | h
  · exact nomatch h.skipped.symm.trans hskip
  · rcases h.skipped hskip with h | ⟨h, -⟩
    · exact hne h
    · exact h hn

/-- What is found directly leaves out no property. -/
theorem Found.skippedOf {hint : String} {x : Value} {t : DataType}
    (h : Found scope hint s x t s') (n : String) :
    Extraction.skippedOf n s'.warnings = Extraction.skippedOf n s.warnings := by
  have hfacets : ∀ (name : String) (schema : Value) (s : State),
      Extraction.skippedOf n (s.noted (notes (scalar name schema))).warnings =
        Extraction.skippedOf n s.warnings := by
    intro name schema s
    refine skippedOf_append_others fun w hw p hskip => ?_
    exact nomatch (isFacet_skipped ((scalar_notes name schema).facet w hw)).symm.trans hskip
  cases h with
  | simple _ _ _ hrun =>
      rcases (namedType_ok hrun).2 with rfl | rfl
      · rfl
      · exact hfacets _ _ s
  | model _ _ _ _ _ _ => rfl
  | plain _ _ _ _ _ hrun =>
      obtain ⟨s₁, hnamed, rfl⟩ := plainType_ok hrun
      have hs₁ : Extraction.skippedOf n s₁.warnings = Extraction.skippedOf n s.warnings := by
        rcases (namedType_ok hnamed).2 with rfl | rfl
        · rfl
        · exact hfacets _ _ s
      split <;> exact hs₁
  | inlineScalar _ _ _ _ => exact hfacets _ _ _

/-- The properties of a model are dealt with in turn while it is built. -/
theorem Fields.dealt {required : List String} {ps : List (String × Value)} {fields : List Field}
    (h : Fields scope owner required s ps fields s') : owner ∈ s.taken →
    ∃ skipped, Extraction.skippedOf owner s'.warnings =
        Extraction.skippedOf owner s.warnings ++ skipped ∧
      Dealt (ps.map (·.1)) (fields.map (·.name)) skipped := by
  induction h with
  | nil => exact fun _ => ⟨[], (List.append_nil _).symm, .nil⟩
  | @skip owner _ s _ name _ _ _ w hw _ _ ih =>
      intro howner
      obtain ⟨skipped, hskipped, hdealt⟩ := ih howner
      refine ⟨name :: skipped, ?_, .skip hdealt⟩
      rw [hskipped, State.noted, skippedOf_append, List.append_assoc]
      simp [Extraction.skippedOf, hw]
  | found _ hfound _ ih =>
      intro howner
      obtain ⟨skipped, hskipped, hdealt⟩ := ih (hfound.taken howner)
      exact ⟨skipped, by rw [hskipped, hfound.skippedOf], .field hdealt⟩
  | @inline owner _ s s₁ _ _ inner _ _ _ _ _ _ _ _ _ _ _ _ hinner _ hfields _ _ _ _ ih =>
      intro howner
      have hgrows := hfields.growsAny
      have howner' : owner ∈ (s.took inner).taken := List.mem_cons_of_mem _ howner
      have hne : owner ≠ inner := fun h => inlineNameOf_not_mem s _ (hinner ▸ h ▸ howner)
      obtain ⟨skipped, hskipped, hdealt⟩ := ih (hgrows.taken howner')
      refine ⟨skipped, ?_, .field hdealt⟩
      rw [hskipped]
      exact congrArg (· ++ skipped) (hgrows.skippedOf howner' hne)

end Skipped

/-! ## Fields with sources -/

/-- The field that a property of an owner has, with the source of its type. -/
def FieldFrom (scope : Scope) (s : State) (owner : String) (required : List String)
    (p : String × Value) (f : Field) : Prop :=
  ∃ x isCollection t, typeSource scope.document owner p.1 p.2 = .ok (x, isCollection) ∧
    Source scope s x t ∧ f = fieldOf p.1 (required.contains p.1) p.2 t isCollection

section Sourced

variable {scope : Scope} {owner : String} {required : List String} {s s' : State}
  {ps : List (String × Value)} {fields : List Field}

theorem modelReference_eq {name : String} {schema : Value} {t : DataType}
    (h : Schema.modelReference name schema = .ok t) : t.name = name ∧ t.kind = .object := by
  unfold Schema.modelReference at h
  split at h
  · exact nomatch h
  · cases h
    exact ⟨rfl, rfl⟩

theorem FieldFrom.mono (hcarries : Carries s s') {p : String × Value} {f : Field}
    (h : FieldFrom scope s owner required p f) : FieldFrom scope s' owner required p f := by
  obtain ⟨x, c, t, hx, hsource, hf⟩ := h
  exact ⟨x, c, t, hx, hsource.mono hcarries, hf⟩

theorem Found.source {hint : String} {x : Value} {t : DataType} (h : Found scope hint s x t s') :
    Source scope s' x t := by
  cases h with
  | simple href hreferent hsimple hrun =>
      exact .simple href hreferent hsimple (namedType_ok hrun).1
  | model href hreferent hsimple hcomplex havailable ht =>
      exact .model href hreferent hsimple hcomplex havailable ht
  | plain href hreferent hsimple _ hplain hrun =>
      obtain ⟨s₁, hnamed, rfl⟩ := plainType_ok hrun
      have hknown := (namedType_ok hnamed).1
      split
      · rename_i hemitted
        obtain ⟨u, hu, hname⟩ := List.any_eq_true.mp hemitted
        refine .plain href hreferent hsimple hplain hknown (List.mem_map.mpr ⟨u, ?_, ?_⟩)
        · exact List.mem_append_left _ hu
        · simpa using hname
      · exact .plain href hreferent hsimple hplain hknown
          (List.mem_map_of_mem (by simp [State.pended]))
  | inlineScalar href hscalar _ ht =>
      have hname := (scalar_name ht).1
      exact .scalar href hscalar (hname ▸ ht) (List.mem_map_of_mem (by simp [State.pended]))

/-- The type of each field comes from somewhere. -/
theorem Fields.sourced (h : Fields scope owner required s ps fields s') :
    ∀ f ∈ fields, ∃ p ∈ ps, FieldFrom scope s' owner required p f := by
  induction h with
  | nil => exact fun _ hf => absurd hf List.not_mem_nil
  | skip _ _ _ ih =>
      intro f hf
      obtain ⟨p, hp, hfrom⟩ := ih f hf
      exact ⟨p, List.mem_cons_of_mem _ hp, hfrom⟩
  | found hx hfound hrest ih =>
      intro f hf
      rcases List.mem_cons.mp hf with rfl | hf
      · exact ⟨_, List.mem_cons_self, _, _, _, hx, hfound.source.mono hrest.growsAny.carries, rfl⟩
      · obtain ⟨p, hp, hfrom⟩ := ih f hf
        exact ⟨p, List.mem_cons_of_mem _ hp, hfrom⟩
  | inline hx href hscalar hcomplex _ _ _ _ ht hrest _ ih =>
      intro f hf
      rcases List.mem_cons.mp hf with rfl | hf
      · have hname := (modelReference_eq ht).1
        refine ⟨_, List.mem_cons_self, _, _, _, hx, Source.mono hrest.growsAny.carries ?_, rfl⟩
        refine .inline href hscalar hcomplex (hname ▸ ht) ?_
        simp [State.modelNames, State.pendedModel, modelOf, hname]
      · obtain ⟨p, hp, hfrom⟩ := ih f hf
        exact ⟨p, List.mem_cons_of_mem _ hp, hfrom⟩

end Sourced

/-! ## Models that are accounted for -/

/-- An inline model is made for a property of another model. -/
def PartOf (document : Value) (m₀ : Model) (x₀ : Value) (m : Model) (x : Value) : Prop :=
  ∃ shape f p isCollection, Shape.ofSchema document x₀ = .ok shape ∧ f ∈ m₀.fields ∧
    (f.name, p) ∈ shape.properties ∧
    typeSource document m₀.name f.name p = .ok (x, isCollection) ∧
    Schema.ref? x = none ∧ Schema.isScalar x = false ∧ Schema.isComplex document x = .ok true ∧
    f.dataType.name = m.name ∧ f.dataType.kind = .object

/-- The schema that describes a model among some models: a component schema of its name, or the
schema of the property that it was made for. -/
inductive Describes (document : Value) (schemas : List (String × Value)) (models : List Model) :
    Model → Value → Prop
  | component {m : Model} {schema : Value} : m ∈ models → (m.name, schema) ∈ schemas →
      Describes document schemas models m schema
  | part {m₀ m : Model} {x₀ x : Value} : Describes document schemas models m₀ x₀ → m ∈ models →
      PartOf document m₀ x₀ m x → Describes document schemas models m x

/-- A model that is what its schema describes, as far as it has not been left out with a warning. -/
structure Accounted (scope : Scope) (s : State) (m : Model) (schema : Value) (shape : Shape) :
    Prop where
  ofSchema : Shape.ofSchema scope.document schema = .ok shape
  model : m = modelOf m.name schema m.fields
  nonempty : m.fields ≠ []
  fields : ∀ f ∈ m.fields, ∃ p ∈ shape.properties, FieldFrom scope s m.name shape.required p f
  dealt : Dealt (shape.properties.map (·.1)) (m.fields.map (·.name)) (skippedOf m.name s.warnings)

/-- Every property that has been left out belongs to a model whose name is taken. -/
def Tidy (s : State) : Prop :=
  ∀ w ∈ s.warnings, ∀ m p, w.skipped? = some (m, p) → m ∈ s.taken

section Accounted

variable {scope : Scope} {R : String → Value → Prop} {owner : String} {required : List String}
  {s s' : State} {ps : List (String × Value)} {fields : List Field}

theorem Accounted.mono (hcarries : Carries s s') {m : Model} {schema : Value} {shape : Shape}
    (hskipped : skippedOf m.name s'.warnings = skippedOf m.name s.warnings)
    (h : Accounted scope s m schema shape) : Accounted scope s' m schema shape where
  ofSchema := h.ofSchema
  model := h.model
  nonempty := h.nonempty
  fields := fun f hf => by
    obtain ⟨p, hp, hfrom⟩ := h.fields f hf
    exact ⟨p, hp, hfrom.mono hcarries⟩
  dealt := hskipped ▸ h.dealt

theorem Grows.tidy (h : Grows scope R owner s s') (hs : Tidy s) (howner : owner ∈ s.taken) :
    Tidy s' := by
  intro w hw m p hskip
  obtain ⟨ws, hws, hnoted⟩ := h.warnings
  rcases List.mem_append.mp (hws ▸ hw) with hw | hw
  · exact h.taken (hs w hw m p hskip)
  · rcases (hnoted w hw).skipped hskip with rfl | ⟨-, hm⟩
    · exact h.taken howner
    · exact hm

theorem skippedOf_free (hs : Tidy s) {name : String} (hfree : name ∉ s.taken) :
    skippedOf name s.warnings = [] :=
  skippedOf_eq_nil fun w hw p hskip => hfree (hs w hw name p hskip)

/-- A model is accounted for when all of its properties have been dealt with. -/
theorem Fields.accounted {x : Value} {shape : Shape}
    (hshape : Shape.ofSchema scope.document x = .ok shape)
    (h : Fields scope owner shape.required s shape.properties fields s') (hne : fields ≠ [])
    (howner : owner ∈ s.taken) (hskipped : skippedOf owner s.warnings = []) :
    Accounted scope s' (modelOf owner x fields) x shape := by
  obtain ⟨skipped, hall, hdealt⟩ := h.dealt howner
  rw [hskipped, List.nil_append] at hall
  exact ⟨hshape, rfl, hne, h.sourced, hall ▸ hdealt⟩

/-- Some properties of an owner, and fields of them, in a model of that name among some models.  `D`
holds of the model and the schema that has the properties. -/
def Inside (document : Value) (D : Model → Value → Prop) (M : List Model) (owner : String)
    (ps : List (String × Value)) (fields : List Field) : Prop :=
  ∃ m ∈ M, ∃ x shape, D m x ∧ m.name = owner ∧ Shape.ofSchema document x = .ok shape ∧
    ps ⊆ shape.properties ∧ fields ⊆ m.fields

section Inside

variable {document : Value} {D : Model → Value → Prop} {M : List Model} {p : String × Value}
  {f : Field}

theorem Inside.skip (h : Inside document D M owner (p :: ps) fields) :
    Inside document D M owner ps fields := by
  obtain ⟨m, hm, x, shape, hD, hname, hshape, hps, hfields⟩ := h
  exact ⟨m, hm, x, shape, hD, hname, hshape, fun _ hp => hps (List.mem_cons_of_mem _ hp), hfields⟩

theorem Inside.next (h : Inside document D M owner (p :: ps) (f :: fields)) :
    Inside document D M owner ps fields := by
  obtain ⟨m, hm, x, shape, hD, hname, hshape, hps, hfields⟩ := h
  exact ⟨m, hm, x, shape, hD, hname, hshape, fun _ hp => hps (List.mem_cons_of_mem _ hp),
    fun _ hf => hfields (List.mem_cons_of_mem _ hf)⟩

theorem Inside.whole {x : Value} {shape : Shape} (hm : modelOf owner x fields ∈ M)
    (hD : D (modelOf owner x fields) x) (hshape : Shape.ofSchema document x = .ok shape) :
    Inside document D M owner shape.properties fields :=
  ⟨_, hm, x, shape, hD, rfl, hshape, fun _ h => h, fun _ h => h⟩

/-- What passes from a model to its parts passes to an inline model of one of its properties. -/
theorem Inside.part
    (hD : ∀ {m₀ x₀ m x}, D m₀ x₀ → m ∈ M → PartOf document m₀ x₀ m x → D m x)
    {name inner : String} {schema x : Value} {isRequired isCollection : Bool} {t : DataType}
    {innerFields : List Field}
    (h : Inside document D M owner ((name, schema) :: ps)
      (fieldOf name isRequired schema t isCollection :: fields))
    (hx : typeSource document owner name schema = .ok (x, isCollection))
    (href : Schema.ref? x = none) (hscalar : Schema.isScalar x = false)
    (hcomplex : Schema.isComplex document x = .ok true)
    (ht : Schema.modelReference inner x = .ok t) (hm : modelOf inner x innerFields ∈ M) :
    D (modelOf inner x innerFields) x := by
  obtain ⟨m₀, _, x₀, shape₀, hm₀, hname, hshape, hps, hfields⟩ := h
  obtain ⟨htname, htkind⟩ := modelReference_eq ht
  exact hD hm₀ hm ⟨shape₀, _, schema, isCollection, hshape, hfields List.mem_cons_self,
    hps List.mem_cons_self, hname ▸ hx, href, hscalar, hcomplex, htname, htkind⟩

end Inside

/-- The inline models that are pending after a derivation are accounted for. Any description passes
down to them that passes from a model to its parts. -/
theorem Fields.accounted_parts {D : Model → Value → Prop} {M : List Model}
    (hD : ∀ {m₀ x₀ m x}, D m₀ x₀ → m ∈ M → PartOf scope.document m₀ x₀ m x → D m x)
    (h : Fields scope owner required s ps fields s') :
    Inside scope.document D M owner ps fields → s'.pendingModels ⊆ M → owner ∈ s.taken → Tidy s →
      ∀ m ∈ s'.pendingModels, m ∈ s.pendingModels ∨
        ∃ x shape, D m x ∧ Accounted scope s' m x shape := by
  induction h with
  | nil => exact fun _ _ _ _ _ hm => .inl hm
  | @skip owner _ s s' name _ _ _ w hw _ hrest ih =>
      intro hinside hM howner htidy
      refine ih hinside.skip hM howner ?_
      intro v hv m p hskip
      rcases List.mem_append.mp hv with hv | hv
      · exact htidy v hv m p hskip
      · obtain rfl := List.mem_singleton.mp hv
        cases hw.symm.trans hskip
        exact howner
  | @found owner _ s s₁ s' _ _ _ _ _ _ _ _ hfound _ ih =>
      intro hinside hM howner htidy
      rw [← hfound.pendingModels]
      exact ih hinside.next hM (hfound.taken howner) ((hfound.growsAny owner).tidy htidy howner)
  | @inline owner _ s s₁ s' name inner schema x _ _ innerFields t c shape hx href hscalar hcomplex
      hinner hinnerShape hinnerFields hne ht hrest ihinner ihrest =>
      intro hinside hM howner htidy
      have hfree : inner ∉ s.taken := hinner ▸ inlineNameOf_not_mem s _
      have hgrowsInner := hinnerFields.growsAny
      have hgrowsRest := hrest.growsAny
      have htidy' : Tidy (s.took inner) :=
        fun w hw m p hskip => List.mem_cons_of_mem _ (htidy w hw m p hskip)
      have htidy₁ : Tidy s₁ := hgrowsInner.tidy htidy' List.mem_cons_self
      have howner₁ : owner ∈ s₁.taken := hgrowsInner.taken (List.mem_cons_of_mem _ howner)
      have hpending : (s₁.pendedModel (modelOf inner x innerFields)).pendingModels ⊆ M :=
        fun _ hm => hM (hgrowsRest.pendingModels.subset hm)
      have hlast : modelOf inner x innerFields ∈ M :=
        hpending (List.mem_append_right _ List.mem_cons_self)
      have hDinner := hinside.part hD hx href hscalar hcomplex ht hlast
      -- what is accounted for by now stays so
      have hmono : ∀ {m y shape}, m.name ∈ s₁.taken → m.name ∉ s.taken →
          Accounted scope s₁ m y shape → Accounted scope s' m y shape := by
        intro m y shape hin hnot hm
        have hne : m.name ≠ owner := fun h => hnot (h ▸ howner)
        have hpended : Grows scope (Referred scope.document) owner s₁
            (s₁.pendedModel (modelOf inner x innerFields)) := .pendedModel _
        have hcarries : Carries s₁ s' := hpended.carries.trans hgrowsRest.carries
        exact hm.mono hcarries (hgrowsRest.skippedOf hin hne)
      intro m hm
      rcases ihrest hinside.next hM howner₁ htidy₁ m hm with hm | hm
      · rcases List.mem_append.mp hm with hm | hm
        · rcases hinnerFields.pendingModels m hm with hold | ⟨hnot, hin⟩
          · exact .inl hold
          · rcases ihinner (.whole hlast hDinner hinnerShape)
              (fun _ h => hpending (List.mem_append_left _ h)) List.mem_cons_self htidy' m hm
              with hold | ⟨y, shape', hDm, haccounted⟩
            · exact .inl hold
            · exact .inr ⟨y, shape', hDm,
                hmono hin (fun h => hnot (List.mem_cons_of_mem _ h)) haccounted⟩
        · obtain rfl := List.mem_singleton.mp hm
          refine .inr ⟨x, shape, hDinner, hmono (hgrowsInner.taken List.mem_cons_self) hfree ?_⟩
          exact hinnerFields.accounted hinnerShape hne List.mem_cons_self
            (skippedOf_free htidy hfree)
      · exact .inr hm

end Accounted

end Typewright.Extraction
