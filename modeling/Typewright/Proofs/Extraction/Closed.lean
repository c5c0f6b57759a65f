/-
# The result is closed and has no orphans

Where all references lead into the component schemas, a name stands for one component schema in all
of a document.  Then the types of fields have one entry each in the result, nothing is in the result
that no component schema and no field calls for, and no name is given twice (`result_closed`).

Names of types and names of models are kept apart while a pass goes on (`Apart`).  A name of a
component schema cannot be both, as a schema is either a scalar or an object; any other name was
free when it was given.
-/
import Typewright.Extraction.Metadata
import Typewright.Proofs.Extraction.Result

namespace Typewright.Extraction

/-! ## Reading component schemas only -/

/-- A name and its schema, among some component schemas. -/
def Component (schemas : List (String × Value)) (name : String) (schema : Value) : Prop :=
  (name, schema) ∈ schemas

theorem Setting.components {document : Value} {schemas : List (String × Value)}
    (hs : Document.schemas document = .ok schemas) (hnodup : (schemas.map (·.1)).Nodup)
    (hrefs : ∀ c ∈ schemas, ∀ r ∈ c.2.references, Document.IsComponentRef r) :
    Setting document schemas Document.IsComponentRef (Component schemas) where
  refersIn := fun hr htarget => by
    obtain ⟨_, name, _, hname, _⟩ := hr.keys
    exact hrefs _ (Document.resolve_componentRef hs hr hname htarget)
  read := fun hr hreferent => by
    obtain ⟨-, hname, htarget⟩ := referent_eq_ok hreferent
    exact Document.resolve_componentRef hs hr hname htarget
  nodup := hnodup
  component := fun _ hc => hc
  references := hrefs

/-- Of component schemas with different names, a name has only one. -/
theorem schema_unique {schemas : List (String × Value)} (hnodup : (schemas.map (·.1)).Nodup)
    {name : String} {x y : Value} (hx : (name, x) ∈ schemas) (hy : (name, y) ∈ schemas) :
    x = y := by
  induction schemas with
  | nil => exact absurd hx List.not_mem_nil
  | cons c rest ih =>
      rw [List.map_cons, List.nodup_cons] at hnodup
      rcases List.mem_cons.mp hx with rfl | hx' <;> rcases List.mem_cons.mp hy with h | hy'
      · exact (congrArg Prod.snd h).symm
      · exact absurd (List.mem_map_of_mem hy') hnodup.1
      · subst h
        exact absurd (List.mem_map_of_mem hx') hnodup.1
      · exact ih hnodup.2 hx' hy'

/-! ## Names that are kept apart -/

/-- The names of types are apart from those of models, and each of them is a name of a component
schema of its sort, or was free when it was given. -/
structure Apart (schemas : List (String × Value)) (s : State) : Prop where
  types : ∀ n ∈ s.typeNames, n ∈ s.taken ∧
    (n ∈ schemas.map (·.1) → ∃ schema, (n, schema) ∈ schemas ∧ Schema.isScalar schema = true)
  models : ∀ n ∈ s.modelNames, n ∈ s.taken ∧
    (n ∈ schemas.map (·.1) → ∃ schema, (n, schema) ∈ schemas ∧ Schema.isScalar schema = false)
  apart : ∀ n ∈ s.typeNames, n ∉ s.modelNames

section Apart

variable {document : Value} {scope : Scope} {schemas : List (String × Value)} {A : String → Prop}
  {s s' : State}

theorem typeNames_pended (s : State) (t : DataType) :
    (s.pended t).typeNames = s.typeNames ++ [t.name] := by
  simp [State.typeNames, State.pended]

theorem modelNames_pendedModel (s : State) (m : Model) :
    (s.pendedModel m).modelNames = s.modelNames ++ [m.name] := by
  simp [State.modelNames, State.pendedModel]

/-- Names stay apart in a state that has taken more names and has given no others. -/
theorem Apart.of_names (h : Apart schemas s) (htypes : ∀ n ∈ s'.typeNames, n ∈ s.typeNames)
    (hmodels : ∀ n ∈ s'.modelNames, n ∈ s.modelNames) (htaken : s.taken ⊆ s'.taken) :
    Apart schemas s' where
  types := fun n hn => (h.types n (htypes n hn)).imp (@htaken n) id
  models := fun n hn => (h.models n (hmodels n hn)).imp (@htaken n) id
  apart := fun n hn hm => h.apart n (htypes n hn) (hmodels n hm)

/-- One more type: of a scalar component schema, or under a name that was free. -/
theorem Apart.add_type (hnodup : (schemas.map (·.1)).Nodup) (h : Apart schemas s) {n : String}
    (htypes : ∀ m ∈ s'.typeNames, m ∈ s.typeNames ∨ m = n)
    (hmodels : ∀ m ∈ s'.modelNames, m ∈ s.modelNames) (htaken : s.taken ⊆ s'.taken)
    (hn : n ∈ s'.taken)
    (hcase : (∃ schema, (n, schema) ∈ schemas ∧ Schema.isScalar schema = true) ∨
      n ∉ s.taken ∧ n ∉ schemas.map (·.1)) : Apart schemas s' where
  types := by
    intro m hm
    rcases htypes m hm with hm | rfl
    · exact (h.types m hm).imp (@htaken m) id
    · exact ⟨hn, fun hin => hcase.elim id fun hfree => absurd hin hfree.2⟩
  models := fun m hm => (h.models m (hmodels m hm)).imp (@htaken m) id
  apart := by
    intro m hm hmodel
    have hmodel := hmodels m hmodel
    rcases htypes m hm with hm | rfl
    · exact h.apart m hm hmodel
    · rcases hcase with ⟨schema, hin, hscalar⟩ | ⟨hfree, -⟩
      · obtain ⟨schema', hin', hobject⟩ := (h.models m hmodel).2 (List.mem_map_of_mem hin)
        rw [schema_unique hnodup hin hin', hobject] at hscalar
        exact nomatch hscalar
      · exact hfree (h.models m hmodel).1

/-- One more model: of an object among the component schemas, or under a name that no type has. -/
theorem Apart.add_model (hnodup : (schemas.map (·.1)).Nodup) (h : Apart schemas s) {n : String}
    (htypes : ∀ m ∈ s'.typeNames, m ∈ s.typeNames)
    (hmodels : ∀ m ∈ s'.modelNames, m ∈ s.modelNames ∨ m = n) (htaken : s.taken ⊆ s'.taken)
    (hn : n ∈ s'.taken)
    (hcase : (∃ schema, (n, schema) ∈ schemas ∧ Schema.isScalar schema = false) ∨
      n ∉ s.typeNames ∧ n ∉ schemas.map (·.1)) : Apart schemas s' where
  types := fun m hm => (h.types m (htypes m hm)).imp (@htaken m) id
  models := by
    intro m hm
    rcases hmodels m hm with hm | rfl
    · exact (h.models m hm).imp (@htaken m) id
    · exact ⟨hn, fun hin => hcase.elim id fun hfree => absurd hin hfree.2⟩
  apart := by
    intro m hm hmodel
    have hm := htypes m hm
    rcases hmodels m hmodel with hmodel | rfl
    · exact h.apart m hm hmodel
    · rcases hcase with ⟨schema, hin, hobject⟩ | ⟨hfree, -⟩
      · obtain ⟨schema', hin', hscalar⟩ := (h.types m hm).2 (List.mem_map_of_mem hin)
        rw [schema_unique hnodup hin hin', hscalar] at hobject
        exact nomatch hobject
      · exact hfree hm

section Given

variable {R : String → Value → Prop}

/-- What is found directly gives at most one name, to a type: one that a scalar is read under, or a
name that was free. -/
theorem Found.typeNames (hread : Reading scope.document A R) {hint : String} {x : Value}
    {t : DataType} (hx : x.RefersIn A) (hknown : KnownUnder R s)
    (h : Found scope hint s x t s') :
    s'.typeNames = s.typeNames ∨ ∃ n, s'.typeNames = s.typeNames ++ [n] ∧
      ((∃ schema, R n schema ∧ Schema.isScalar schema = true) ∨ n ∉ s.taken ∧ n ∈ s'.taken) := by
  cases h with
  | simple _ _ _ hrun => rcases (namedType_ok hrun).2 with rfl | rfl <;> exact .inl rfl
  | model _ _ _ _ _ _ => exact .inl rfl
  | @plain _ target name t s' href hreferent _ _ hplain hrun =>
      have hin : R name target := hread.read_ref? hx href hreferent
      obtain ⟨s₁, hnamed, rfl⟩ := plainType_ok hrun
      obtain ⟨hlookup, hs₁⟩ := namedType_ok hnamed
      have hgrows : Grows scope R "" s _ :=
        namedType_grows hin (Schema.isScalar_of_isPlain hplain) s
      rw [hnamed] at hgrows
      have hname := (hknown.grows hgrows).name hlookup
      have hnames : s₁.typeNames = s.typeNames := by rcases hs₁ with rfl | rfl <;> rfl
      split
      · exact .inl hnames
      · refine .inr ⟨name, by rw [typeNames_pended, hnames, hname], .inl ⟨target, hin, ?_⟩⟩
        exact Schema.isScalar_of_isPlain hplain
  | @inlineScalar name t _ _ hname ht =>
      refine .inr ⟨name, ?_, .inr ⟨hname ▸ inlineNameOf_not_mem s hint, List.mem_cons_self⟩⟩
      rw [typeNames_pended, (scalar_name ht).1]
      rfl

/-- The names that are given to types while a model is built are names that schemas are read under,
and names that were free. -/
theorem Fields.mem_typeNames (hread : Reading scope.document A R) {owner : String}
    {required : List String} {ps : List (String × Value)} {fields : List Field}
    (h : Fields scope owner required s ps fields s') :
    (∀ p ∈ ps, p.2.RefersIn A) → KnownUnder R s → ∀ n ∈ s'.typeNames,
      n ∈ s.typeNames ∨ (∃ schema, R n schema) ∨ n ∉ s.taken ∧ n ∈ s'.taken := by
  induction h with
  | nil => exact fun _ _ _ hn => .inl hn
  | skip _ _ _ ih => exact fun hps => ih fun p hp => hps p (List.mem_cons_of_mem _ hp)
  | found hx hfound hrest ih =>
      intro hps hknown n hn
      have hx' := hread.refersIn_typeSource (hps _ List.mem_cons_self) hx
      rcases ih (fun p hp => hps p (List.mem_cons_of_mem _ hp))
        (hknown.grows (hfound.grows hread "" hx')) n hn with hn | hn | ⟨hfree, hn⟩
      · rcases hfound.typeNames hread hx' hknown with heq | ⟨m, heq, hm⟩
        · exact .inl (heq ▸ hn)
        · rw [heq, List.mem_append, List.mem_singleton] at hn
          rcases hn with hn | rfl
          · exact .inl hn
          · rcases hm with ⟨schema, hm, -⟩ | ⟨hfree, hm⟩
            · exact .inr (.inl ⟨schema, hm⟩)
            · exact .inr (.inr ⟨hfree, hrest.taken hm⟩)
      · exact .inr (.inl hn)
      · exact .inr (.inr ⟨fun hs => hfree (hfound.taken hs), hn⟩)
  | @inline _ _ s s₁ _ _ inner _ _ _ _ _ _ _ _ hx _ _ _ _ hshape hfields _ _ hrest ihinner
      ihrest =>
      intro hps hknown n hn
      have hx' := hread.refersIn_typeSource (hps _ List.mem_cons_self) hx
      have hinner := Shape.refersIn_properties hread.refersIn hx' hshape
      have hknown' : KnownUnder R (s.took inner) := hknown
      have hknown₁ : KnownUnder R s₁ := hknown'.grows (hfields.grows hread hinner)
      rcases ihrest (fun p hp => hps p (List.mem_cons_of_mem _ hp)) hknown₁ n hn
        with hn | hn | ⟨hfree, hn⟩
      · rcases ihinner hinner hknown' n hn with hn | hn | ⟨hfree, hn⟩
        · exact .inl hn
        · exact .inr (.inl hn)
        · exact .inr (.inr ⟨fun hs => hfree (List.mem_cons_of_mem _ hs), hrest.taken hn⟩)
      · exact .inr (.inl hn)
      · exact .inr (.inr ⟨fun hs => hfree (hfields.taken (List.mem_cons_of_mem _ hs)), hn⟩)

end Given

variable {owner : String} {required : List String} {ps : List (String × Value)}
  {fields : List Field}

/-- Names stay apart while a model is built. -/
theorem Fields.apart (hset : Setting scope.document schemas A (Component schemas))
    (h : Fields scope owner required s ps fields s') :
    (∀ p ∈ ps, p.2.RefersIn A) → KnownUnder (Component schemas) s →
      (∀ n ∈ schemas.map (·.1), n ∈ s.taken) → Apart schemas s → Apart schemas s' := by
  induction h with
  | nil => exact fun _ _ _ h => h
  | skip _ _ _ ih =>
      intro hps hknown htaken hapart
      exact ih (fun p hp => hps p (List.mem_cons_of_mem _ hp)) hknown htaken
        (hapart.of_names (fun _ h => h) (fun _ h => h) fun _ h => h)
  | @found owner _ s s₁ _ _ _ _ _ _ _ _ hx hfound _ ih =>
      intro hps hknown htaken hapart
      have hx' := hset.refersIn_typeSource (hps _ List.mem_cons_self) hx
      have hgrows : Grows scope (Component schemas) owner s s₁ :=
        hfound.grows hset.toReading owner hx'
      have hmodels : s₁.modelNames = s.modelNames := by
        rw [State.modelNames, State.modelNames, hfound.pendingModels, hgrows.models]
      refine ih (fun p hp => hps p (List.mem_cons_of_mem _ hp)) (hknown.grows hgrows)
        (fun n hn => hgrows.taken (htaken n hn)) ?_
      rcases hfound.typeNames hset.toReading hx' hknown with heq | ⟨n, heq, hcase⟩
      · exact hapart.of_names (fun _ hn => heq ▸ hn) (fun _ hn => hmodels ▸ hn) hgrows.taken
      · have hn : n ∈ s₁.taken := by
          rcases hcase with ⟨_, hin, _⟩ | ⟨-, hn⟩
          · exact hgrows.taken (htaken n (List.mem_map_of_mem hin))
          · exact hn
        refine hapart.add_type hset.nodup (n := n) (fun m hm => ?_) (fun _ hm => hmodels ▸ hm)
          hgrows.taken hn (hcase.imp id fun hfree => ⟨hfree.1, fun hin => hfree.1 (htaken n hin)⟩)
        rw [heq, List.mem_append, List.mem_singleton] at hm
        exact hm
  | @inline owner _ s s₁ _ _ inner _ x _ _ innerFields _ _ _ hx _ _ _ hinner hshape hfields _ _ _
      ihinner ihrest =>
      intro hps hknown htaken hapart
      have hx' := hset.refersIn_typeSource (hps _ List.mem_cons_self) hx
      have hrefs := Shape.refersIn_properties hset.refersIn hx' hshape
      have hfree : inner ∉ s.taken := hinner ▸ inlineNameOf_not_mem s _
      have hnew : inner ∉ schemas.map (·.1) := fun hin => hfree (htaken inner hin)
      have hknown' : KnownUnder (Component schemas) (s.took inner) := hknown
      have hgrows : Grows scope (Component schemas) inner (s.took inner) s₁ :=
        hfields.grows hset.toReading hrefs
      have htaken' : ∀ n ∈ schemas.map (·.1), n ∈ (s.took inner).taken :=
        fun n hn => List.mem_cons_of_mem _ (htaken n hn)
      have hapart₁ : Apart schemas s₁ := ihinner hrefs hknown' htaken'
        (hapart.of_names (fun _ h => h) (fun _ h => h) (List.subset_cons_self _ _))
      have hunused : inner ∉ s₁.typeNames := by
        intro hin
        rcases hfields.mem_typeNames hset.toReading hrefs hknown' inner hin
          with hin | ⟨_, hin⟩ | ⟨hin, -⟩
        · exact hfree (hapart.types inner hin).1
        · exact hnew (List.mem_map_of_mem hin)
        · exact hin List.mem_cons_self
      have hknown₁ : KnownUnder (Component schemas) s₁ := hknown'.grows hgrows
      refine ihrest (fun p hp => hps p (List.mem_cons_of_mem _ hp)) hknown₁
        (fun n hn => hgrows.taken (htaken' n hn)) ?_
      refine hapart₁.add_model hset.nodup (n := inner) (fun _ h => h) (fun m hm => ?_)
        (fun _ h => h) (hgrows.taken List.mem_cons_self) (.inr ⟨hunused, hnew⟩)
      rw [modelNames_pendedModel, List.mem_append, List.mem_singleton] at hm
      exact hm

/-- Names stay apart in a step. -/
theorem Step.apart (hset : Setting scope.document schemas A (Component schemas))
    {name : String} {schema : Value}
    (h : Step scope (Component schemas) s name schema s')
    (he : (name, schema) ∈ schemas) (hschema : schema.RefersIn A)
    (hknown : KnownUnder (Component schemas) s) (hlater : Later scope (Component schemas) name s s')
    (htaken : ∀ n ∈ schemas.map (·.1), n ∈ s.taken) (hapart : Apart schemas s) :
    Apart schemas s' := by
  cases h.emitted with
  | nothing htypes hmodels =>
      refine hapart.of_names (fun n hn => ?_) (fun n hn => ?_) hlater.taken
      · rw [State.typeNames, hlater.idleTypes, htypes, List.append_nil] at hn
        exact (List.prefix_append _ _ |>.map _).subset hn
      · rw [State.modelNames, hlater.idleModels, hmodels, List.append_nil] at hn
        exact (List.prefix_append _ _ |>.map _).subset hn
  | @type t s₁ hsimple hrun hgrows =>
      obtain ⟨hlookup, hs₁⟩ := namedType_ok hrun
      have hname := (hknown.grows hgrows).name hlookup
      have htypes : s₁.typeNames = s.typeNames := by rcases hs₁ with rfl | rfl <;> rfl
      have hmodels : s₁.modelNames = s.modelNames := by rcases hs₁ with rfl | rfl <;> rfl
      refine hapart.add_type hset.nodup (n := name) (fun m hm => ?_) (fun m hm => ?_) hlater.taken
        (hlater.taken (htaken name (List.mem_map_of_mem he)))
        (.inl ⟨schema, he, Schema.isScalar_of_isSimple hsimple⟩)
      · rw [State.emit_eq, State.typeNames, List.map_append, List.mem_append,
          mem_names_emitAll] at hm
        rw [← htypes, State.typeNames]
        simp only [List.map_append, List.mem_append, List.map_cons, List.map_nil,
          List.mem_singleton, hname] at hm ⊢
        tauto
      · rw [State.emit_eq] at hm
        exact hmodels ▸ hm
  | @model shape fields s₁ _ hsimple hcomplex hshape hfields _ hgrows =>
      have hbegan : Apart schemas (s.began name) :=
        hapart.of_names (fun _ h => h) (fun _ h => h) fun _ h => h
      have hbuilt : Apart schemas s₁ := hfields.apart hset
        (Shape.refersIn_properties hset.refersIn hschema hshape) hknown htaken hbegan
      refine hbuilt.add_model hset.nodup (n := name) (fun n hn => ?_) (fun n hn => ?_)
        (fun _ h => h) (hgrows.taken (htaken name (List.mem_map_of_mem he)))
        (.inl ⟨schema, he, Schema.isScalar_of_isComplex hcomplex⟩)
      · rw [State.typeNames, State.finished, List.append_nil, mem_names_emitAll] at hn
        exact hn
      · simpa [State.modelNames, State.finished, modelOf, or_assoc] using hn

end Apart

/-! ## After a pass -/

section Pass

variable {document : Value} {unavailable : List String} {schemas : List (String × Value)}
  {A : String → Prop} {R : String → Value → Prop} {models : List Model} {m : Model} {x : Value}
  {s : State} {t : DataType}

theorem apart_start : Apart schemas (start schemas) where
  types := fun _ h => absurd h List.not_mem_nil
  models := fun _ h => absurd h List.not_mem_nil
  apart := fun _ h => absurd h List.not_mem_nil

theorem Apart.step (hset : Setting document schemas A (Component schemas))
    {done rest : List (String × Value)} {e : String × Value} (hsplit : schemas = done ++ e :: rest)
    (hreached : Reached ⟨document, unavailable⟩ (Component schemas) schemas done s)
    (hapart : Apart schemas s) :
    Apart schemas (Extraction.step ⟨document, unavailable⟩ s e.1 e.2) := by
  have he : e ∈ schemas := by simp [hsplit]
  have hstep : Step ⟨document, unavailable⟩ (Component schemas) s e.1 e.2 _ :=
    step_spec hset.toReading (hset.component e he) (hset.references e he) s
  have htaken : ∀ n ∈ schemas.map (·.1), n ∈ s.taken := by
    intro n hn
    obtain ⟨c, hc, rfl⟩ := List.mem_map.mp hn
    exact hreached.taken c hc
  exact hstep.apart hset he (hset.references e he) hreached.known
    (hstep.later hreached.idleTypes hreached.idleModels) htaken hapart

theorem apart_pass (hset : Setting document schemas A (Component schemas)) :
    Apart schemas (pass document schemas unavailable) := by
  have hboth : Reached ⟨document, unavailable⟩ (Component schemas) schemas schemas
      (pass document schemas unavailable) ∧ Apart schemas (pass document schemas unavailable) :=
    pass_induction (P := fun done s =>
      Reached ⟨document, unavailable⟩ (Component schemas) schemas done s ∧ Apart schemas s)
      ⟨.start, apart_start⟩ fun _ _ _ _ hsplit ⟨hreached, hapart⟩ =>
        ⟨hreached.step hset hsplit, hapart.step hset hsplit hreached⟩
  exact hboth.2

theorem Reached.typeNames {scope : Scope} {done : List (String × Value)}
    (h : Reached scope R schemas done s) : s.typeNames = s.dataTypes.map (·.name) := by
  rw [State.typeNames, h.idleTypes, List.append_nil]

theorem Reached.modelNames {scope : Scope} {done : List (String × Value)}
    (h : Reached scope R schemas done s) : s.modelNames = s.models.map (·.name) := by
  rw [State.modelNames, h.idleModels, List.append_nil]

/-- The schemas that describe models refer to what the component schemas refer to. -/
theorem Describes.refersIn (hset : Setting document schemas A R)
    (h : Describes document schemas models m x) : x.RefersIn A := by
  induction h with
  | component _ he => exact hset.references _ he
  | part _ _ hpart ih =>
      obtain ⟨shape, f, p, c, hshape, _, hp, hx, _⟩ := hpart
      exact hset.refersIn_typeSource
        (Shape.refersIn_properties hset.refersIn ih hshape _ hp) hx

/-- The only schema of a name that a known type can come from. -/
theorem KnownUnder.outcome_of_known (hnodup : (schemas.map (·.1)).Nodup)
    (h : KnownUnder (Component schemas) s) {name : String} (hknown : s.known.lookup name = some t)
    (hx : (name, x) ∈ schemas) : outcome (scalar name x) = .ok t := by
  obtain ⟨y, hy, ht⟩ := h name t hknown
  exact schema_unique hnodup hx hy ▸ ht

/-- A type that comes from somewhere has an entry in the result: that of a model if it is an object,
and that of a data type if it is not. -/
theorem Source.emitted (hset : Setting document schemas A (Component schemas))
    (hreached : Reached ⟨document, unavailable⟩ (Component schemas) schemas schemas s)
    (hclosed : s.failed ⊆ unavailable) (hx : x.RefersIn A)
    (h : Source ⟨document, unavailable⟩ s x t) :
    (t.kind = .object ∧ t.name ∈ s.models.map (·.name)) ∨
      (t.kind ≠ .object ∧ t.name ∈ s.dataTypes.map (·.name)) := by
  cases h with
  | @simple ref target name href hreferent hsimple hknown =>
      have hin : (name, target) ∈ schemas := hset.read_ref? hx href hreferent
      have ht := hreached.known.outcome_of_known hset.nodup hknown hin
      obtain ⟨hname, hkind⟩ := scalar_name ht
      refine .inr ⟨hkind ▸ Schema.kind_ne_object (Schema.isScalar_of_isSimple hsimple), ?_⟩
      rcases (hreached.became _ hin).simple hsimple with ⟨_, _, hmem, _⟩ | ⟨why, hwhy, _⟩
      · exact hname ▸ hmem
      · exact nomatch ht.symm.trans hwhy
  | @model ref target name href hreferent hsimple hcomplex havailable ht =>
      have hin : (name, target) ∈ schemas := hset.read_ref? hx href hreferent
      obtain ⟨rfl, hkind⟩ := modelReference_eq ht
      refine .inl ⟨hkind, hreached.mem_models hin ?_ hsimple hcomplex fun h =>
        havailable (hclosed h)⟩
      exact Document.isMap_of_resolve (referent_eq_ok hreferent).2.2
  | @plain ref target name href hreferent _ hplain hknown hname =>
      have hin : (name, target) ∈ schemas := hset.read_ref? hx href hreferent
      have hkind := (scalar_name (hreached.known.outcome_of_known hset.nodup hknown hin)).2
      exact .inr ⟨hkind ▸ Schema.kind_ne_object (Schema.isScalar_of_isPlain hplain),
        hreached.typeNames ▸ hname⟩
  | scalar _ hscalar ht hname =>
      exact .inr ⟨(scalar_name ht).2 ▸ Schema.kind_ne_object hscalar, hreached.typeNames ▸ hname⟩
  | inline _ _ _ ht hname =>
      exact .inl ⟨(modelReference_eq ht).2, hreached.modelNames ▸ hname⟩

end Pass

/-- Where the component schemas have pairwise different names and all references in them lead to
component schemas, the result is closed and has no orphans. The type of each field has exactly one
entry, that of a model just if it is an object; each data type is that of a simple component schema
or of a field, and each model that of a complex component schema or of a field; and no name is given
twice. -/
theorem result_closed {document : Value} {schemas : List (String × Value)}
    (hs : Document.schemas document = .ok schemas) (hdifferent : (schemas.map (·.1)).Nodup)
    (hrefs : ∀ c ∈ schemas, ∀ r ∈ c.2.references, Document.IsComponentRef r) :
    ∃ e, types document = .ok e ∧
      (∀ m ∈ e.models, ∀ f ∈ m.fields,
        (e.dataTypes.map (·.name) ++ e.models.map (·.name)).count f.dataType.name = 1 ∧
        (f.dataType.name ∈ e.models.map (·.name) ↔ f.dataType.kind = .object)) ∧
      (∀ t ∈ e.dataTypes,
        (∃ schema, (t.name, schema) ∈ schemas ∧ Schema.isSimple schema = true ∧
          outcome (scalar t.name schema) = .ok t) ∨
        ∃ m ∈ e.models, ∃ f ∈ m.fields, f.dataType = t) ∧
      (∀ m ∈ e.models,
        (∃ schema, (m.name, schema) ∈ schemas ∧ Schema.isSimple schema = false ∧
          Schema.isComplex document schema = .ok true) ∨
        ∃ m' ∈ e.models, ∃ f ∈ m'.fields, f.dataType.name = m.name ∧ f.dataType.kind = .object) ∧
      (e.dataTypes.map (·.name) ++ e.models.map (·.name)).Nodup := by
  have hset := Setting.components hs hdifferent hrefs
  obtain ⟨U, hrun, hfailed, hreached, haccounts⟩ := run_accounted hs hset
  have hapart : Apart schemas (pass document schemas U) := apart_pass hset
  generalize pass document schemas U = s at hrun hfailed hreached haccounts hapart
  have hnodup : (s.dataTypes.map (·.name) ++ s.models.map (·.name)).Nodup := by
    refine List.nodup_append.mpr ⟨hreached.nodupTypes, hreached.nodupModels, fun n hn n' hn' => ?_⟩
    rintro rfl
    exact hapart.apart n (hreached.typeNames ▸ hn) (hreached.modelNames ▸ hn')
  refine ⟨_, by rw [types, hrun]; rfl, fun m hm f hf => ?_, fun t ht => ?_, fun m hm => ?_, hnodup⟩
  · obtain ⟨schema, shape, hdescribes, haccounted⟩ := haccounts.models m hm
    obtain ⟨p, hp, x, c, t, hx, hsource, rfl⟩ := haccounted.fields f hf
    have hrefs := Shape.refersIn_properties hset.refersIn (hdescribes.refersIn hset)
      haccounted.ofSchema p hp
    have hentry := hsource.emitted hset hreached hfailed (hset.refersIn_typeSource hrefs hx)
    constructor
    · refine List.count_eq_one_of_mem hnodup (List.mem_append.mpr ?_)
      exact hentry.elim (fun h => .inr h.2) fun h => .inl h.2
    · rcases hentry with ⟨hkind, hin⟩ | ⟨hkind, hin⟩
      · exact ⟨fun _ => hkind, fun _ => hin⟩
      · refine ⟨fun hmodel => ?_, fun h => absurd h hkind⟩
        exact absurd (hreached.modelNames ▸ hmodel) (hapart.apart _ (hreached.typeNames ▸ hin))
  · rcases haccounts.types t ht with ⟨schema, hin, hsimple, hknown, -⟩ | howned
    · exact .inl ⟨schema, hin, hsimple, hreached.known.outcome_of_known hdifferent hknown hin⟩
    · exact .inr howned.field
  · obtain ⟨schema, shape, hdescribes, -⟩ := haccounts.models m hm
    cases hdescribes with
    | component _ hin =>
        obtain ⟨schema', hin', -, hcomplex⟩ :=
          (hreached.models m hm).2 (List.mem_map_of_mem hin)
        exact .inl ⟨schema', hin', hcomplex⟩
    | part hwhole _ hpart =>
        obtain ⟨_, f, _, _, _, hf, _, _, _, _, _, hname, hkind⟩ := hpart
        exact .inr ⟨_, hwhole.mem, f, hf, hname, hkind⟩

/-- A document with a scalar, and with a model of which one property refers to the scalar and the
other is an inline model. -/
def linkedModels : Value :=
  .map [(.text "components", .map [(.text "schemas", .map [
    (.text "Code", .map [(.text "type", .text "string"), (.text "maxLength", .int 3)]),
    (.text "Pet", .map [(.text "type", .text "object"), (.text "properties", .map [
      (.text "code", .map [(.text "$ref", .text "#/components/schemas/Code")]),
      (.text "owner", .map [(.text "type", .text "object"), (.text "properties", .map [
        (.text "name", .map [(.text "type", .text "string")])])])])])])])]

theorem linkedModels_closed :
    ∃ e, types linkedModels = .ok e ∧ e.dataTypes.map (·.name) = ["Code", "PetOwnerName"] ∧
      e.models.map (·.name) = ["PetOwner", "Pet"] ∧
      ∀ m ∈ e.models, ∀ f ∈ m.fields,
        f.dataType.name ∈ e.models.map (·.name) ↔ f.dataType.kind = .object := by
  obtain ⟨schemas, hs⟩ : ∃ schemas, Document.schemas linkedModels = .ok schemas := ⟨_, by rfl⟩
  have hcode : ∀ c ∈ schemas, ∀ r ∈ c.2.references, r = "#/components/schemas/Code" := by
    cases hs
    decide
  have hnames : (types linkedModels).map (fun e =>
      (e.dataTypes.map (·.name), e.models.map (·.name))) =
      .ok (["Code", "PetOwnerName"], ["PetOwner", "Pet"]) := by
    decide +kernel
  obtain ⟨e, he, hfields, -⟩ := result_closed hs (by cases hs; decide) fun c hc r hr =>
    ⟨"Code".toList, by decide, hcode c hc r hr⟩
  rw [he] at hnames
  obtain ⟨htypes, hmodels⟩ := Prod.mk.inj (Except.ok.inj hnames)
  exact ⟨e, he, htypes, hmodels, fun m hm f hf => (hfields m hm f hf).2⟩

end Typewright.Extraction
