/-
# One step of a pass

`Step` lists what can become of a component schema: it is emitted as a type or as a model, it fails,
or it is noted that it is nothing of the kind.  It says everything that a step of a pass can do to a
state (`step_spec`), so that an invariant of a pass is shown by cases on `Step`.  `Later` says what
a step leaves as it was, `Emitted` what it emits.
-/
import Typewright.Proofs.Extraction.Built

namespace Typewright.Extraction

/-! ## Emitting -/

/-- Data types with one more, unless there is one of its name. -/
def emitOne (emitted : List DataType) (t : DataType) : List DataType :=
  if emitted.any (·.name == t.name) then emitted else emitted ++ [t]

/-- Data types with more data types, of which the first one of each new name counts. -/
def emitAll (emitted more : List DataType) : List DataType := more.foldl emitOne emitted

section Emit

variable {emitted more : List DataType} {t : DataType} {n : String}

theorem prefix_emitAll : ∀ (more emitted : List DataType), emitted <+: emitAll emitted more
  | [], _ => List.prefix_rfl
  | t :: more, emitted => by
      refine List.IsPrefix.trans ?_ (prefix_emitAll more (emitOne emitted t))
      unfold emitOne
      split
      · exact List.prefix_rfl
      · exact List.prefix_append _ _

theorem mem_emitAll : ∀ {more emitted : List DataType}, t ∈ emitAll emitted more →
    t ∈ emitted ∨ t ∈ more
  | [], _, h => .inl h
  | u :: more, emitted, h => by
      have hrest : t ∈ emitOne emitted u ∨ t ∈ more := mem_emitAll h
      rcases hrest with h | h
      · unfold emitOne at h
        split at h
        · exact .inl h
        · rcases List.mem_append.mp h with h | h
          · exact .inl h
          · exact .inr (List.mem_singleton.mp h ▸ List.mem_cons_self)
      · exact .inr (List.mem_cons_of_mem _ h)

theorem mem_names_emitAll : ∀ (more emitted : List DataType),
    n ∈ (emitAll emitted more).map (·.name) ↔ n ∈ (emitted ++ more).map (·.name)
  | [], emitted => by rw [List.append_nil]; rfl
  | u :: more, emitted => by
      refine (mem_names_emitAll more (emitOne emitted u)).trans ?_
      unfold emitOne
      split
      · rename_i hany
        obtain ⟨v, hv, hvu⟩ := List.any_eq_true.mp hany
        have hname : u.name ∈ emitted.map (·.name) := List.mem_map.mpr ⟨v, hv, by simpa using hvu⟩
        simp only [List.map_append, List.map_cons, List.mem_append, List.mem_cons]
        constructor
        · rintro (h | h)
          · exact .inl h
          · exact .inr (.inr h)
        · rintro (h | rfl | h)
          · exact .inl h
          · exact .inl hname
          · exact .inr h
      · simp

theorem nodup_names_emitAll : ∀ (more : List DataType) {emitted : List DataType},
    (emitted.map (·.name)).Nodup → ((emitAll emitted more).map (·.name)).Nodup
  | [], _, h => h
  | u :: more, emitted, h => by
      have hone : ((emitOne emitted u).map (·.name)).Nodup := by
        unfold emitOne
        split
        · exact h
        · rename_i hnone
          rw [List.map_append, List.nodup_append]
          refine ⟨h, List.pairwise_singleton _ _, fun a ha b hb => ?_⟩
          obtain rfl := List.mem_singleton.mp hb
          obtain ⟨v, hv, rfl⟩ := List.mem_map.mp ha
          exact fun hvu => hnone (List.any_eq_true.mpr ⟨v, hv, by simpa using hvu⟩)
      exact nodup_names_emitAll more hone

end Emit

namespace State

theorem emit_eq (s : State) (t : DataType) :
    s.emit t = { s with dataTypes := emitAll s.dataTypes [t] } := by
  unfold emit emitAll isEmitted
  simp only [List.foldl_cons, List.foldl_nil, emitOne]
  split <;> rfl

theorem foldl_emit_eq : ∀ (ts : List DataType) (s : State),
    ts.foldl emit s = { s with dataTypes := emitAll s.dataTypes ts }
  | [], _ => rfl
  | t :: ts, s => by
      rw [List.foldl_cons, foldl_emit_eq ts, emit_eq]
      rfl

theorem commit_eq (s : State) :
    s.commit = { s with
      dataTypes := emitAll s.dataTypes s.pendingTypes
      models := s.models ++ s.pendingModels
      pendingTypes := []
      pendingModels := [] } := by
  unfold commit
  rw [foldl_emit_eq]

/-- The state in which the model of a name counts as failed. -/
def began (s : State) (name : String) : State :=
  { s with failed := if s.failed.contains name then s.failed else s.failed ++ [name] }

/-- The state in which the model of a name, and what is pending, has been emitted. -/
def finished (s : State) (name : String) (m : Model) : State :=
  { s with
    dataTypes := emitAll s.dataTypes s.pendingTypes
    models := s.models ++ (s.pendingModels ++ [m])
    failed := s.failed.filter (· != name)
    pendingTypes := []
    pendingModels := [] }

/-- The state in which a failure is noted, and what is pending has been given up. -/
def dropped (s : State) (name : String) (why : Failure) : State :=
  { s with
    warnings := s.warnings ++ [.failed name why]
    pendingTypes := []
    pendingModels := [] }

end State

/-! ## Steps -/

theorem run_namedSchema (scope : Scope) (s : State) (name : String) (schema : Value) :
    (namedSchema scope name schema).run.run s =
      if Schema.isSimple schema then
        match (namedType name schema).run.run s with
        | (.ok t, s') => (.ok (), s'.emit t)
        | (.error e, s') => (.error e, s')
      else match Schema.isComplex scope.document schema with
        | .error e => (.error e, s)
        | .ok true =>
          match (model scope name schema).run.run (s.began name) with
          | (.ok m, s') => (.ok (), s'.finished name m)
          | (.error e, s') => (.error e, s')
        | .ok false =>
          (.ok (),
            s.noted [if Schema.isPlain schema then .plainScalar name else .untyped name]) := by
  unfold namedSchema
  split
  · rw [run_bind]
    rcases (namedType name schema).run.run s with ⟨e | t, s'⟩ <;> rfl
  · rw [run_bind, run_ofExcept]
    cases Schema.isComplex scope.document schema with
    | error e => rfl
    | ok complex =>
        cases complex with
        | false =>
            dsimp only
            rw [if_neg Bool.false_ne_true]
            split <;> rfl
        | true =>
            have hbegan : { s with
              failed := if s.failed.contains name then s.failed else s.failed ++ [name] } =
                s.began name := rfl
            dsimp only
            rw [if_pos rfl, run_bind, run_modify]
            dsimp only
            rw [run_bind, hbegan]
            rcases (model scope name schema).run.run (s.began name) with ⟨e | m, s'⟩
            · rfl
            · -- what is pending, the model with it, is emitted
              dsimp only
              rw [run_bind, run_modify]
              dsimp only
              rw [run_bind, run_modify]
              dsimp only
              rw [run_modify, State.commit_eq]
              rfl

theorem step_eq (scope : Scope) (s : State) (name : String) (schema : Value) :
    step scope s name schema =
      if !schema.isMap then s.noted [.notSchema name]
      else match (namedSchema scope name schema).run.run s with
        | (.ok (), s') => s'
        | (.error why, s') => s'.dropped name why := rfl

/-- What becomes of a component schema in a pass, with the state before and after. -/
inductive Step (scope : Scope) (R : String → Value → Prop) (s : State) (name : String)
    (schema : Value) : State → Prop
  | notSchema : schema.isMap = false → Step scope R s name schema (s.noted [.notSchema name])
  | type {t : DataType} {s₁ : State} :
      schema.isMap = true → Schema.isSimple schema = true →
      (namedType name schema).run.run s = (.ok t, s₁) → Grows scope R name s s₁ →
      Step scope R s name schema (s₁.emit t)
  | typeFailed {why : Failure} {s₁ : State} :
      schema.isMap = true → Schema.isSimple schema = true →
      outcome (scalar name schema) = .error why → Grows scope R name s s₁ →
      Step scope R s name schema (s₁.dropped name why)
  | unclassified {why : Failure} :
      schema.isMap = true → Schema.isSimple schema = false →
      Schema.isComplex scope.document schema = .error why →
      Step scope R s name schema (s.dropped name why)
  | model {m : Model} {s₁ : State} :
      schema.isMap = true → Schema.isSimple schema = false →
      Schema.isComplex scope.document schema = .ok true →
      Built scope name schema (s.began name) m s₁ → Grows scope R name (s.began name) s₁ →
      Step scope R s name schema (s₁.finished name m)
  | modelFailed {why : Failure} {s₁ : State} :
      schema.isMap = true → Schema.isSimple schema = false →
      Schema.isComplex scope.document schema = .ok true →
      Grows scope R name (s.began name) s₁ →
      Step scope R s name schema (s₁.dropped name why)
  | plain : schema.isMap = true → Schema.isSimple schema = false →
      Schema.isComplex scope.document schema = .ok false → Schema.isPlain schema = true →
      Step scope R s name schema (s.noted [.plainScalar name])
  | untyped : schema.isMap = true → Schema.isSimple schema = false →
      Schema.isComplex scope.document schema = .ok false → Schema.isPlain schema = false →
      Step scope R s name schema (s.noted [.untyped name])

theorem step_spec {scope : Scope} {A : String → Prop} {R : String → Value → Prop}
    (h : Reading scope.document A R) {name : String} {schema : Value} (hread : R name schema)
    (hschema : schema.RefersIn A) (s : State) :
    Step scope R s name schema (step scope s name schema) := by
  rw [step_eq, run_namedSchema]
  by_cases hmap : schema.isMap = true
  · rw [if_neg (by simp [hmap])]
    by_cases hsimple : Schema.isSimple schema = true
    · rw [if_pos hsimple]
      have hgrows : Grows scope R name s _ :=
        namedType_grows hread (Schema.isScalar_of_isSimple hsimple) s
      rcases hrun : (namedType name schema).run.run s with ⟨why | t, s₁⟩
      · rw [hrun] at hgrows
        have hwhy : outcome (scalar name schema) = .error why := by
          rw [run_namedType] at hrun
          split at hrun
          · exact nomatch hrun
          · split at hrun
            · exact nomatch hrun
            · rename_i e he
              cases hrun
              exact he
        exact .typeFailed hmap hsimple hwhy hgrows
      · rw [hrun] at hgrows
        exact .type hmap hsimple hrun hgrows
    · rw [if_neg hsimple]
      have hsimple : Schema.isSimple schema = false := by simpa using hsimple
      cases hcomplex : Schema.isComplex scope.document schema with
      | error why => exact .unclassified hmap hsimple hcomplex
      | ok complex =>
          cases complex with
          | true =>
              have hgrows : Grows scope R name (s.began name) _ :=
                modelWithin_grows h maxNesting name schema hschema (s.began name)
              dsimp only
              rw [model]
              rcases hrun : (modelWithin scope maxNesting name schema).run.run (s.began name)
                with ⟨why | m, s₁⟩
              · rw [hrun] at hgrows
                exact .modelFailed hmap hsimple hcomplex hgrows
              · rw [hrun] at hgrows
                exact .model hmap hsimple hcomplex (modelWithin_built hrun) hgrows
          | false =>
              dsimp only
              by_cases hplain : Schema.isPlain schema = true
              · rw [if_pos hplain]
                exact .plain hmap hsimple hcomplex hplain
              · rw [if_neg hplain]
                exact .untyped hmap hsimple hcomplex (by simpa using hplain)
  · rw [if_pos (by simpa using hmap)]
    exact .notSchema (by simpa using hmap)

/-! ## What a step leaves as it was -/

/-- What is noted about a component schema as a whole. -/
inductive AboutSchema (name : String) : Warning → Prop
  | notSchema : AboutSchema name (.notSchema name)
  | failed {why : Failure} : AboutSchema name (.failed name why)
  | plain : AboutSchema name (.plainScalar name)
  | untyped : AboutSchema name (.untyped name)

/-- How the state after a step for a name may differ from the state before it. -/
structure Later (scope : Scope) (R : String → Value → Prop) (name : String) (s s' : State) :
    Prop where
  dataTypes : s.dataTypes <+: s'.dataTypes
  models : s.models <+: s'.models
  failed : ∀ n, n ≠ name → (n ∈ s'.failed ↔ n ∈ s.failed)
  taken : s.taken ⊆ s'.taken
  known : ∀ {n t}, s.known.lookup n = some t → s'.known.lookup n = some t
  read : ∀ {n t}, s'.known.lookup n = some t → s.known.lookup n = some t ∨
    ∃ schema, R n schema ∧ Schema.isScalar schema = true ∧ outcome (scalar n schema) = .ok t
  warnings : ∃ ws, s'.warnings = s.warnings ++ ws ∧ ∀ w ∈ ws, AboutSchema name w ∨
    Noted scope (fun m => m = name ∨ m ∉ s.taken ∧ m ∈ s'.taken) w
  idleTypes : s'.pendingTypes = []
  idleModels : s'.pendingModels = []

section Later

variable {scope : Scope} {R : String → Value → Prop} {s s₁ : State} {name : String}

theorem mem_began {n : String} : n ∈ (s.began name).failed ↔ n ∈ s.failed ∨ n = name := by
  unfold State.began
  dsimp only
  split
  · rename_i hcontains
    have hmem : name ∈ s.failed := by simpa using hcontains
    exact ⟨.inl, fun h => h.elim id fun h => h ▸ hmem⟩
  · simp

theorem Grows.noted_or (h : Grows scope R name s s₁) :
    ∃ ws, s₁.warnings = s.warnings ++ ws ∧ ∀ w ∈ ws, AboutSchema name w ∨
      Noted scope (fun m => m = name ∨ m ∉ s.taken ∧ m ∈ s₁.taken) w := by
  obtain ⟨ws, hws, hnoted⟩ := h.warnings
  exact ⟨ws, hws, fun w hw => .inr (hnoted w hw)⟩

theorem Later.noted {w : Warning} (hw : AboutSchema name w) (htypes : s.pendingTypes = [])
    (hmodels : s.pendingModels = []) : Later scope R name s (s.noted [w]) where
  dataTypes := List.prefix_rfl
  models := List.prefix_rfl
  failed := fun _ _ => .rfl
  taken := fun _ h => h
  known := id
  read := .inl
  warnings := ⟨[w], rfl, fun _ hv => .inl (List.mem_singleton.mp hv ▸ hw)⟩
  idleTypes := htypes
  idleModels := hmodels

theorem Later.dropped (h : Grows scope R name s s₁) (why : Failure) :
    Later scope R name s (s₁.dropped name why) where
  dataTypes := h.dataTypes ▸ List.prefix_rfl
  models := h.models ▸ List.prefix_rfl
  failed := fun _ _ => by rw [State.dropped, h.failed]
  taken := h.taken
  known := h.known
  read := h.read
  warnings := by
    obtain ⟨ws, hws, hnoted⟩ := h.noted_or
    refine ⟨ws ++ [.failed name why], by simp [State.dropped, hws], fun w hw => ?_⟩
    rcases List.mem_append.mp hw with hw | hw
    · exact hnoted w hw
    · exact .inl (List.mem_singleton.mp hw ▸ .failed)
  idleTypes := rfl
  idleModels := rfl

/-- Only the name of the step itself counts as failed from its beginning on. -/
theorem Later.of_began {s' : State} (h : Later scope R name (s.began name) s') :
    Later scope R name s s' where
  dataTypes := h.dataTypes
  models := h.models
  failed := fun n hn => (h.failed n hn).trans (mem_began.trans (or_iff_left hn))
  taken := h.taken
  known := h.known
  read := h.read
  warnings := h.warnings
  idleTypes := h.idleTypes
  idleModels := h.idleModels

theorem Step.later {schema : Value} {s' : State} (h : Step scope R s name schema s')
    (htypes : s.pendingTypes = []) (hmodels : s.pendingModels = []) : Later scope R name s s' := by
  cases h with
  | notSchema _ => exact .noted .notSchema htypes hmodels
  | @type t s₁ _ _ hrun hgrows =>
      have hidle : s₁.pendingTypes = [] ∧ s₁.pendingModels = [] := by
        rcases (namedType_ok hrun).2 with rfl | rfl <;> exact ⟨htypes, hmodels⟩
      rw [State.emit_eq]
      exact {
        dataTypes := hgrows.dataTypes ▸ prefix_emitAll [t] s₁.dataTypes
        models := hgrows.models ▸ List.prefix_rfl
        failed := fun _ _ => by rw [← hgrows.failed]
        taken := hgrows.taken
        known := hgrows.known
        read := hgrows.read
        warnings := hgrows.noted_or
        idleTypes := hidle.1
        idleModels := hidle.2 }
  | typeFailed _ _ _ hgrows => exact .dropped hgrows _
  | unclassified _ _ _ => exact .dropped (.refl s) _
  | @model m s₁ _ _ _ _ hgrows =>
      refine Later.of_began {
        dataTypes := hgrows.dataTypes ▸ prefix_emitAll s₁.pendingTypes s₁.dataTypes
        models := hgrows.models ▸ List.prefix_append s₁.models (s₁.pendingModels ++ [m])
        failed := fun n hn => ?_
        taken := hgrows.taken
        known := hgrows.known
        read := hgrows.read
        warnings := hgrows.noted_or
        idleTypes := rfl
        idleModels := rfl }
      simp [State.finished, hgrows.failed, hn]
  | modelFailed _ _ _ hgrows => exact .of_began (.dropped hgrows _)
  | plain _ _ _ _ => exact .noted .plain htypes hmodels
  | untyped _ _ _ _ => exact .noted .untyped htypes hmodels

end Later

/-! ## What a step emits -/

/-- What a step emits: nothing, the type of its schema, or its model with what is pending. -/
inductive Emitted (scope : Scope) (R : String → Value → Prop) (s : State) (name : String)
    (schema : Value) : State → Prop
  | nothing {s' : State} : s'.dataTypes = s.dataTypes → s'.models = s.models →
      Emitted scope R s name schema s'
  | type {t : DataType} {s₁ : State} : Schema.isSimple schema = true →
      (namedType name schema).run.run s = (.ok t, s₁) → Grows scope R name s s₁ →
      Emitted scope R s name schema (s₁.emit t)
  | model {shape : Shape} {fields : List Field} {s₁ : State} :
      schema.isMap = true → Schema.isSimple schema = false →
      Schema.isComplex scope.document schema = .ok true →
      Shape.ofSchema scope.document schema = .ok shape →
      Fields scope name shape.required (s.began name) shape.properties fields s₁ → fields ≠ [] →
      Grows scope R name (s.began name) s₁ →
      Emitted scope R s name schema (s₁.finished name (modelOf name schema fields))

section Step

variable {scope : Scope} {R : String → Value → Prop} {s s' : State} {name : String}
  {schema : Value}

theorem Step.emitted (h : Step scope R s name schema s') : Emitted scope R s name schema s' := by
  cases h with
  | notSchema _ => exact .nothing rfl rfl
  | type _ hsimple hrun hgrows => exact .type hsimple hrun hgrows
  | typeFailed _ _ _ hgrows => exact .nothing hgrows.dataTypes hgrows.models
  | unclassified _ _ _ => exact .nothing rfl rfl
  | model hmap hsimple hcomplex hbuilt hgrows =>
      obtain ⟨shape, fields, hshape, hfields, hne, rfl⟩ := hbuilt
      exact .model hmap hsimple hcomplex hshape hfields hne hgrows
  | modelFailed _ _ _ hgrows => exact .nothing hgrows.dataTypes hgrows.models
  | plain _ _ _ _ => exact .nothing rfl rfl
  | untyped _ _ _ _ => exact .nothing rfl rfl

/-- The models that a model takes along are inline models, whose names were free. -/
theorem Fields.free_pendingModels {required : List String} {ps : List (String × Value)}
    {fields : List Field} (h : Fields scope name required (s.began name) ps fields s')
    (hidle : s.pendingModels = []) :
    ∀ m ∈ s'.pendingModels, m.name ∉ s.taken ∧ m.name ∈ s'.taken := by
  intro m hm
  rcases h.pendingModels m hm with hm | hfree
  · have hm' : m ∈ s.pendingModels := hm
    rw [hidle] at hm'
    exact absurd hm' List.not_mem_nil
  · exact hfree

/-- A step emits the model of its own name and inline models, whose names were free. -/
theorem Step.mem_models (h : Step scope R s name schema s') (hidle : s.pendingModels = []) :
    ∀ m ∈ s'.models, m ∈ s.models ∨ m.name ∉ s.taken ∧ m.name ∈ s'.taken ∨
      m.name = name ∧ schema.isMap = true ∧ Schema.isSimple schema = false ∧
        Schema.isComplex scope.document schema = .ok true := by
  intro m hm
  cases h.emitted with
  | nothing _ hmodels => exact .inl (hmodels ▸ hm)
  | type _ _ hgrows =>
      rw [State.emit_eq] at hm
      exact .inl (hgrows.models ▸ hm)
  | model hmap hsimple hcomplex _ hfields _ hgrows =>
      rcases List.mem_append.mp hm with hm | hm
      · rw [hgrows.models] at hm
        exact .inl hm
      · rcases List.mem_append.mp hm with hm | hm
        · exact .inr (.inl (hfields.free_pendingModels hidle m hm))
        · obtain rfl := List.mem_singleton.mp hm
          exact .inr (.inr ⟨rfl, hmap, hsimple, hcomplex⟩)

theorem Step.nodup_models (h : Step scope R s name schema s') (hidle : s.pendingModels = [])
    (hs : (s.models.map (·.name)).Nodup) (htaken : ∀ m ∈ s.models, m.name ∈ s.taken)
    (hname : name ∈ s.taken) (hnew : name ∉ s.models.map (·.name)) :
    (s'.models.map (·.name)).Nodup := by
  cases h.emitted with
  | nothing _ hmodels => exact hmodels ▸ hs
  | type _ _ hgrows =>
      rw [State.emit_eq]
      exact hgrows.models ▸ hs
  | @model _ _ s₁ _ _ _ _ hfields _ hgrows =>
      have hpending := hfields.free_pendingModels hidle
      have hnone : (s.began name).pendingModels = [] := hidle
      have hnodup : (s₁.pendingModels.map (·.name)).Nodup := by
        refine hfields.nodup_pendingModels ?_ ?_ <;> rw [hnone]
        · exact List.nodup_nil
        · exact fun _ hm => absurd hm List.not_mem_nil
      have hmodels : s₁.models = s.models := hgrows.models
      simp only [State.finished, hmodels, List.map_append, List.map_cons, List.map_nil]
      rw [List.nodup_append, List.nodup_append]
      refine ⟨hs, ⟨hnodup, List.pairwise_singleton _ _, ?_⟩, ?_⟩
      · intro a ha b hb
        obtain ⟨m, hm, rfl⟩ := List.mem_map.mp ha
        obtain rfl := List.mem_singleton.mp hb
        exact fun h => (hpending m hm).1 (h ▸ hname)
      · intro a ha b hb
        rcases List.mem_append.mp hb with hb | hb
        · obtain ⟨m, hm, rfl⟩ := List.mem_map.mp hb
          obtain ⟨m', hm', rfl⟩ := List.mem_map.mp ha
          exact fun h => (hpending m hm).1 (h ▸ htaken m' hm')
        · obtain rfl := List.mem_singleton.mp hb
          exact fun h => hnew (h ▸ ha)

theorem Step.nodup_types (h : Step scope R s name schema s')
    (hs : (s.dataTypes.map (·.name)).Nodup) : (s'.dataTypes.map (·.name)).Nodup := by
  cases h.emitted with
  | nothing htypes _ => exact htypes ▸ hs
  | type _ _ hgrows =>
      rw [State.emit_eq]
      exact nodup_names_emitAll _ (hgrows.dataTypes ▸ hs)
  | @model _ _ s₁ _ _ _ _ _ _ hgrows =>
      have htypes : s₁.dataTypes = s.dataTypes := hgrows.dataTypes
      exact nodup_names_emitAll _ (htypes ▸ hs)

/-- The name of a step counts as failed after it only if its model has failed. -/
theorem Step.failed (h : Step scope R s name schema s')
    (hname : name ∈ s'.failed) : s'.models = s.models := by
  cases h.emitted with
  | nothing _ hmodels => exact hmodels
  | type _ _ hgrows =>
      rw [State.emit_eq]
      exact hgrows.models
  | model _ _ _ _ _ _ _ => simp [State.finished] at hname

end Step

end Typewright.Extraction
