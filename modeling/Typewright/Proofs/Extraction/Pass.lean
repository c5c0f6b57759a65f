/-
# One pass over the component schemas

`Reached` is the invariant of a pass.  It says what has become of each schema whose step is over
(`Became`), that the names of types and of models are pairwise different, and what the names, the
known types and the warnings of the state can be.  `steps_induction` carries it, and any other
invariant, from one point of a pass to another, and `pass_induction` from its start to its end.
-/
import Typewright.Proofs.Extraction.Step

namespace Typewright.Extraction

/-! ## Passes -/

/-- The state before the first step of a pass. -/
def start (schemas : List (String × Value)) : State := { taken := schemas.map (·.1) }

/-- The state after the steps for some component schemas. -/
def steps (scope : Scope) (s : State) (es : List (String × Value)) : State :=
  es.foldl (fun s e => step scope s e.1 e.2) s

theorem steps_cons (scope : Scope) (s : State) (e : String × Value)
    (es : List (String × Value)) :
    steps scope s (e :: es) = steps scope (step scope s e.1 e.2) es := rfl

theorem pass_eq (document : Value) (schemas : List (String × Value)) (unavailable : List String) :
    pass document schemas unavailable = steps ⟨document, unavailable⟩ (start schemas) schemas := rfl

/-- What is kept by each step is kept by several steps of a pass. -/
theorem steps_induction {scope : Scope} {schemas : List (String × Value)}
    {P : List (String × Value) → State → Prop}
    (hstep : ∀ done e rest s, schemas = done ++ e :: rest → P done s →
      P (done ++ [e]) (step scope s e.1 e.2)) :
    ∀ {es done rest : List (String × Value)} {s : State}, schemas = done ++ (es ++ rest) →
      P done s → P (done ++ es) (steps scope s es)
  | [], done, _, _, _, hs => by rwa [List.append_nil]
  | e :: es, done, rest, s, hsplit, hs => by
      have hnext : P (done ++ [e] ++ es) (steps scope (step scope s e.1 e.2) es) :=
        steps_induction hstep (by simpa using hsplit) (hstep done e _ s hsplit hs)
      rwa [List.append_assoc] at hnext

/-- What holds at the start and is kept by each step holds after a pass. -/
theorem pass_induction {document : Value} {schemas : List (String × Value)}
    {unavailable : List String} {P : List (String × Value) → State → Prop}
    (hstart : P [] (start schemas))
    (hstep : ∀ done e rest s, schemas = done ++ e :: rest → P done s →
      P (done ++ [e]) (step ⟨document, unavailable⟩ s e.1 e.2)) :
    P schemas (pass document schemas unavailable) :=
  steps_induction hstep (List.append_nil _).symm hstart

/-- Component schemas with pairwise different names, and what can be read under a name. -/
structure Setting (document : Value) (schemas : List (String × Value)) (A : String → Prop)
    (R : String → Value → Prop) : Prop extends Reading document A R where
  nodup : (schemas.map (·.1)).Nodup
  component : ∀ e ∈ schemas, R e.1 e.2
  references : ∀ e ∈ schemas, e.2.RefersIn A

/-- Where nothing is said about the references, any of them may be read. -/
theorem Setting.any {document : Value} {schemas : List (String × Value)}
    (hnodup : (schemas.map (·.1)).Nodup) :
    Setting document schemas (fun _ => True)
      (fun name schema => (name, schema) ∈ schemas ∨ Referred document name schema) where
  refersIn := fun _ _ _ _ => trivial
  read := fun _ h => .inr ⟨_, h⟩
  nodup := hnodup
  component := fun _ he => .inl he
  references := fun _ _ _ _ => trivial

/-- What has become of a component schema whose step is over. -/
inductive Became (document : Value) (s : State) (name : String) (schema : Value) : Prop
  | notSchema : schema.isMap = false → .notSchema name ∈ s.warnings →
      Became document s name schema
  | type {t : DataType} : schema.isMap = true → Schema.isSimple schema = true →
      s.known.lookup name = some t → name ∈ s.dataTypes.map (·.name) →
      (∀ why, .failed name why ∉ s.warnings) → Became document s name schema
  | typeFailed {why : Failure} : schema.isMap = true → Schema.isSimple schema = true →
      outcome (scalar name schema) = .error why → .failed name why ∈ s.warnings →
      Became document s name schema
  | unclassified {why : Failure} : schema.isMap = true → Schema.isSimple schema = false →
      Schema.isComplex document schema = .error why → .failed name why ∈ s.warnings →
      Became document s name schema
  | model : schema.isMap = true → Schema.isSimple schema = false →
      Schema.isComplex document schema = .ok true → name ∈ s.models.map (·.name) →
      name ∉ s.failed → (∀ why, .failed name why ∉ s.warnings) → Became document s name schema
  | modelFailed {why : Failure} : schema.isMap = true → Schema.isSimple schema = false →
      Schema.isComplex document schema = .ok true → .failed name why ∈ s.warnings →
      name ∈ s.failed → Became document s name schema
  | plain : schema.isMap = true → Schema.isSimple schema = false →
      Schema.isComplex document schema = .ok false → Schema.isPlain schema = true →
      .plainScalar name ∈ s.warnings → Became document s name schema
  | untyped : schema.isMap = true → Schema.isSimple schema = false →
      Schema.isComplex document schema = .ok false → Schema.isPlain schema = false →
      .untyped name ∈ s.warnings → Became document s name schema

/-- A simple schema has an entry of its name, or it has no type. -/
theorem Became.simple {document : Value} {s : State} {name : String} {schema : Value}
    (h : Became document s name schema) (hsimple : Schema.isSimple schema = true) :
    (∃ t, s.known.lookup name = some t ∧ name ∈ s.dataTypes.map (·.name) ∧
      ∀ why, .failed name why ∉ s.warnings) ∨
    ∃ why, outcome (scalar name schema) = .error why ∧ .failed name why ∈ s.warnings := by
  cases h with
  | notSchema hmap _ =>
      exact nomatch (Schema.isMap_of_isScalar (Schema.isScalar_of_isSimple hsimple)).symm.trans hmap
  | type _ _ hknown hmem hgood => exact .inl ⟨_, hknown, hmem, hgood⟩
  | typeFailed _ _ hwhy hfailed => exact .inr ⟨_, hwhy, hfailed⟩
  | unclassified _ hnot _ _ => exact nomatch hsimple.symm.trans hnot
  | model _ hnot _ _ _ _ => exact nomatch hsimple.symm.trans hnot
  | modelFailed _ hnot _ _ _ => exact nomatch hsimple.symm.trans hnot
  | plain _ hnot _ _ _ => exact nomatch hsimple.symm.trans hnot
  | untyped _ hnot _ _ _ => exact nomatch hsimple.symm.trans hnot

section Later

variable {scope : Scope} {R : String → Value → Prop} {s s' : State} {name : String}

theorem Later.mem_warnings (h : Later scope R name s s') {w : Warning} (hw : w ∈ s.warnings) :
    w ∈ s'.warnings := by
  obtain ⟨ws, hws, -⟩ := h.warnings
  exact hws ▸ List.mem_append_left ws hw

theorem Later.failed_warning (h : Later scope R name s s') {n : String} (hn : n ≠ name)
    {why : Failure} (hw : .failed n why ∈ s'.warnings) : .failed n why ∈ s.warnings := by
  obtain ⟨ws, hws, habout⟩ := h.warnings
  rcases List.mem_append.mp (hws ▸ hw) with hw | hw
  · exact hw
  · rcases habout _ hw with hw | hw
    · cases hw
      exact absurd rfl hn
    · cases hw
      rename_i hw
      exact nomatch hw

/-- Building a model notes no failure of a component schema. -/
theorem Grows.failed_warning {owner : String} (h : Grows scope R owner s s') {n : String}
    {why : Failure} (hw : .failed n why ∈ s'.warnings) : .failed n why ∈ s.warnings := by
  obtain ⟨ws, hws, hnoted⟩ := h.warnings
  rcases List.mem_append.mp (hws ▸ hw) with hw | hw
  · exact hw
  · cases hnoted _ hw
    rename_i hw
    exact nomatch hw

/-- What has become of a schema stays so in later steps. -/
theorem Became.later (hlater : Later scope R name s s') {n : String} (hn : n ≠ name)
    {schema : Value} (h : Became scope.document s n schema) :
    Became scope.document s' n schema := by
  have hnames : ∀ {n}, n ∈ s.dataTypes.map (·.name) → n ∈ s'.dataTypes.map (·.name) :=
    fun h => (hlater.dataTypes.map _).subset h
  have hmodels : ∀ {n}, n ∈ s.models.map (·.name) → n ∈ s'.models.map (·.name) :=
    fun h => (hlater.models.map _).subset h
  cases h with
  | notSchema hmap hw => exact .notSchema hmap (hlater.mem_warnings hw)
  | type hmap hs hknown hmem hw =>
      exact .type hmap hs (hlater.known hknown) (hnames hmem) fun why h =>
        hw why (hlater.failed_warning hn h)
  | typeFailed hmap hs he hw => exact .typeFailed hmap hs he (hlater.mem_warnings hw)
  | unclassified hmap hs he hw => exact .unclassified hmap hs he (hlater.mem_warnings hw)
  | model hmap hs hc hmem hfailed hw =>
      exact .model hmap hs hc (hmodels hmem) (fun h => hfailed ((hlater.failed n hn).mp h))
        fun why h => hw why (hlater.failed_warning hn h)
  | modelFailed hmap hs hc hw hfailed =>
      exact .modelFailed hmap hs hc (hlater.mem_warnings hw) ((hlater.failed n hn).mpr hfailed)
  | plain hmap hs hc hp hw => exact .plain hmap hs hc hp (hlater.mem_warnings hw)
  | untyped hmap hs hc hp hw => exact .untyped hmap hs hc hp (hlater.mem_warnings hw)

end Later

/-- The types that are known in a state were found under their names. -/
def KnownUnder (R : String → Value → Prop) (s : State) : Prop :=
  ∀ n t, s.known.lookup n = some t → ∃ schema, R n schema ∧ outcome (scalar n schema) = .ok t

theorem scalar_name {name : String} {schema : Value} {t : DataType}
    (h : outcome (scalar name schema) = .ok t) :
    t.name = name ∧ t.kind = Schema.kind schema := by
  obtain ⟨_, cs, _, rfl⟩ := (Schema.outcome_scalarType_eq_ok name).mp h
  exact ⟨rfl, rfl⟩

section Known

variable {scope : Scope} {R : String → Value → Prop} {owner : String} {s s' : State}

theorem KnownUnder.grows (h : KnownUnder R s) (hgrows : Grows scope R owner s s') :
    KnownUnder R s' :=
  fun n t hn => (hgrows.read hn).elim (h n t) fun ⟨schema, hread, _, ht⟩ => ⟨schema, hread, ht⟩

theorem KnownUnder.name (h : KnownUnder R s) {n : String} {t : DataType}
    (ht : s.known.lookup n = some t) : t.name = n := by
  obtain ⟨_, _, hn⟩ := h n t ht
  exact (scalar_name hn).1

end Known

/-- What holds between the steps of a pass, after the steps for some of the schemas. -/
structure Reached (scope : Scope) (R : String → Value → Prop)
    (schemas done : List (String × Value)) (s : State) : Prop where
  idleTypes : s.pendingTypes = []
  idleModels : s.pendingModels = []
  taken : ∀ e ∈ schemas, e.1 ∈ s.taken
  known : KnownUnder R s
  nodupTypes : (s.dataTypes.map (·.name)).Nodup
  nodupModels : (s.models.map (·.name)).Nodup
  models : ∀ m ∈ s.models, m.name ∈ s.taken ∧ (m.name ∈ schemas.map (·.1) →
    ∃ schema, (m.name, schema) ∈ done ∧ schema.isMap = true ∧ Schema.isSimple schema = false ∧
      Schema.isComplex scope.document schema = .ok true)
  failed : ∀ n ∈ s.failed, n ∈ done.map (·.1) ∧ n ∉ s.models.map (·.name)
  warnings : ∀ w ∈ s.warnings, (∃ e ∈ done, AboutSchema e.1 w) ∨
    Noted scope (fun m => m ∈ s.taken ∧ (m ∈ schemas.map (·.1) → m ∈ done.map (·.1))) w
  became : ∀ e ∈ done, Became scope.document s e.1 e.2

/-! ## Steps keep what holds between them -/

section Step

variable {scope : Scope} {R : String → Value → Prop} {s s' : State} {name : String}
  {schema : Value}

/-- A step that fails emits nothing. -/
theorem Step.quiet (h : Step scope R s name schema s') {why : Failure}
    (hbefore : .failed name why ∉ s.warnings) (hwhy : .failed name why ∈ s'.warnings) :
    s'.dataTypes = s.dataTypes ∧ s'.models = s.models := by
  cases h.emitted with
  | nothing htypes hmodels => exact ⟨htypes, hmodels⟩
  | type _ _ hgrows =>
      rw [State.emit_eq] at hwhy
      exact absurd (hgrows.failed_warning hwhy) hbefore
  | model _ _ _ _ _ _ hgrows => exact absurd (hgrows.failed_warning hwhy) hbefore

theorem Step.became (h : Step scope R s name schema s') (hknown : KnownUnder R s)
    (hgood : ∀ why, .failed name why ∉ s.warnings) : Became scope.document s' name schema := by
  cases h with
  | notSchema hmap => exact .notSchema hmap (by simp [State.noted])
  | @type t s₁ hmap hsimple hrun hgrows =>
      have hlookup := (namedType_ok hrun).1
      have hname := (hknown.grows hgrows).name hlookup
      rw [State.emit_eq]
      refine .type hmap hsimple hlookup ((mem_names_emitAll _ _).mpr ?_) fun why hwhy =>
        hgood why (hgrows.failed_warning hwhy)
      exact List.mem_map.mpr ⟨t, by simp, hname⟩
  | typeFailed hmap hsimple hwhy _ =>
      exact .typeFailed hmap hsimple hwhy (by simp [State.dropped])
  | unclassified hmap hsimple hwhy =>
      exact .unclassified hmap hsimple hwhy (by simp [State.dropped])
  | @model m s₁ hmap hsimple hcomplex hbuilt hgrows =>
      obtain ⟨_, _, _, _, _, rfl⟩ := hbuilt
      refine .model hmap hsimple hcomplex ?_ (by simp [State.finished]) fun why hwhy =>
        hgood why (hgrows.failed_warning hwhy)
      simp [State.finished, modelOf]
  | modelFailed hmap hsimple hcomplex hgrows =>
      exact .modelFailed hmap hsimple hcomplex (List.mem_append_right _ List.mem_cons_self)
        (hgrows.failed ▸ mem_began.mpr (.inr rfl))
  | plain hmap hsimple hcomplex hplain =>
      exact .plain hmap hsimple hcomplex hplain (by simp [State.noted])
  | untyped hmap hsimple hcomplex hplain =>
      exact .untyped hmap hsimple hcomplex hplain (by simp [State.noted])

end Step

section Reached

variable {document : Value} {unavailable : List String} {schemas : List (String × Value)}
  {A : String → Prop} {R : String → Value → Prop}

theorem Reached.start : Reached ⟨document, unavailable⟩ R schemas [] (start schemas) where
  idleTypes := rfl
  idleModels := rfl
  taken := fun _ he => List.mem_map_of_mem he
  known := fun _ _ h => nomatch h
  nodupTypes := List.nodup_nil
  nodupModels := List.nodup_nil
  models := fun _ h => absurd h List.not_mem_nil
  failed := fun _ h => absurd h List.not_mem_nil
  warnings := fun _ h => absurd h List.not_mem_nil
  became := fun _ h => absurd h List.not_mem_nil

/-- The schema whose turn it is has another name than the schemas before it. -/
theorem Setting.new (hset : Setting document schemas A R) {done rest : List (String × Value)}
    {e : String × Value} (hsplit : schemas = done ++ e :: rest) : ∀ d ∈ done, d.1 ≠ e.1 := by
  intro d hd
  have hnodup := hset.nodup
  rw [hsplit, List.map_append, List.map_cons, List.nodup_append] at hnodup
  exact hnodup.2.2 _ (List.mem_map_of_mem hd) _ List.mem_cons_self

/-- No failure of the schema whose turn it is has been noted before. -/
theorem Reached.unfailed {done : List (String × Value)} {s : State}
    (h : Reached ⟨document, unavailable⟩ R schemas done s) {name : String}
    (hnew : ∀ d ∈ done, d.1 ≠ name) (why : Failure) : .failed name why ∉ s.warnings := by
  intro hwhy
  rcases h.warnings _ hwhy with ⟨c, hc, hw⟩ | hw
  · generalize hname : c.1 = n at hw
    cases hw
    exact hnew c hc hname
  · cases hw
    rename_i hw
    exact nomatch hw

theorem Reached.step (hset : Setting document schemas A R) {done rest : List (String × Value)}
    {e : String × Value} (hsplit : schemas = done ++ e :: rest) {s : State}
    (h : Reached ⟨document, unavailable⟩ R schemas done s) :
    Reached ⟨document, unavailable⟩ R schemas (done ++ [e])
      (Extraction.step ⟨document, unavailable⟩ s e.1 e.2) := by
  have he : e ∈ schemas := by simp [hsplit]
  have hdone : ∀ d ∈ done, d ∈ schemas := fun d hd => by simp [hsplit, hd]
  have hnew := hset.new hsplit
  have hstep : Step ⟨document, unavailable⟩ R s e.1 e.2 _ :=
    step_spec hset.toReading (hset.component e he) (hset.references e he) s
  generalize Extraction.step ⟨document, unavailable⟩ s e.1 e.2 = s' at hstep
  have hlater := hstep.later h.idleTypes h.idleModels
  have hnewModel : e.1 ∉ s.models.map (·.name) := by
    intro hmem
    obtain ⟨m, hm, hname⟩ := List.mem_map.mp hmem
    have hin : m.name ∈ schemas.map (·.1) := hname ▸ List.mem_map_of_mem he
    obtain ⟨_, hd, _⟩ := (h.models m hm).2 hin
    exact hnew _ hd hname
  exact {
    idleTypes := hlater.idleTypes
    idleModels := hlater.idleModels
    taken := fun d hd => hlater.taken (h.taken d hd)
    known := fun n t hn => (hlater.read hn).elim (h.known n t) fun ⟨schema, hread, _, ht⟩ =>
      ⟨schema, hread, ht⟩
    nodupTypes := hstep.nodup_types h.nodupTypes
    nodupModels := hstep.nodup_models h.idleModels h.nodupModels (fun m hm => (h.models m hm).1)
      (h.taken e he) hnewModel
    models := by
      intro m hm
      rcases hstep.mem_models h.idleModels m hm with hm | ⟨hfree, hm⟩ | ⟨hname, hcomplex⟩
      · refine ⟨hlater.taken (h.models m hm).1, fun hin => ?_⟩
        obtain ⟨schema, hd, hcomplex⟩ := (h.models m hm).2 hin
        exact ⟨schema, List.mem_append_left _ hd, hcomplex⟩
      · refine ⟨hm, fun hin => ?_⟩
        obtain ⟨d, hd, hname⟩ := List.mem_map.mp hin
        exact absurd (hname ▸ h.taken d hd) hfree
      · exact ⟨hname ▸ hlater.taken (h.taken e he), fun _ => ⟨e.2, by simp [hname], hcomplex⟩⟩
    failed := by
      intro n hn
      by_cases hname : n = e.1
      · subst hname
        exact ⟨by simp, hstep.failed hn ▸ hnewModel⟩
      · obtain ⟨hin, hnot⟩ := h.failed n ((hlater.failed n hname).mp hn)
        refine ⟨by simp [hin], fun hmem => ?_⟩
        obtain ⟨m, hm, rfl⟩ := List.mem_map.mp hmem
        obtain ⟨d, hd, hdname⟩ := List.mem_map.mp hin
        rcases hstep.mem_models h.idleModels m hm with hm | ⟨hfree, -⟩ | ⟨hm, -⟩
        · exact hnot (List.mem_map_of_mem hm)
        · exact hfree (hdname ▸ h.taken d (hdone d hd))
        · exact hname hm
    warnings := by
      intro w hw
      obtain ⟨ws, hws, habout⟩ := hlater.warnings
      rcases List.mem_append.mp (hws ▸ hw) with hw | hw
      · rcases h.warnings w hw with ⟨d, hd, hw⟩ | hw
        · exact .inl ⟨d, List.mem_append_left _ hd, hw⟩
        · exact .inr (hw.mono fun m hm => ⟨hlater.taken hm.1, fun hin => by simp [hm.2 hin]⟩)
      · rcases habout w hw with hw | hw
        · exact .inl ⟨e, by simp, hw⟩
        · refine .inr (hw.mono fun m hm => ?_)
          rcases hm with rfl | ⟨hfree, hm⟩
          · exact ⟨hlater.taken (h.taken e he), fun _ => by simp⟩
          · refine ⟨hm, fun hin => ?_⟩
            obtain ⟨d, hd, rfl⟩ := List.mem_map.mp hin
            exact absurd (h.taken d hd) hfree
    became := by
      intro d hd
      rcases List.mem_append.mp hd with hd | hd
      · exact (h.became d hd).later hlater (hnew d hd)
      · obtain rfl := List.mem_singleton.mp hd
        exact hstep.became h.known (h.unfailed hnew) }

theorem reached_steps (hset : Setting document schemas A R) {done rest : List (String × Value)}
    (hsplit : schemas = done ++ rest) :
    Reached ⟨document, unavailable⟩ R schemas done
      (steps ⟨document, unavailable⟩ (Extraction.start schemas) done) :=
  steps_induction (P := Reached ⟨document, unavailable⟩ R schemas)
    (fun _ _ _ _ hsplit h => h.step hset hsplit) hsplit .start

theorem reached_pass (hset : Setting document schemas A R) :
    Reached ⟨document, unavailable⟩ R schemas schemas (pass document schemas unavailable) :=
  reached_steps hset (List.append_nil _).symm

/-- A failure that is noted after the steps for other schemas was noted before them. -/
theorem Reached.failed_before (hset : Setting document schemas A R) {name : String}
    {why : Failure} : ∀ {es done rest : List (String × Value)} {s : State},
      schemas = done ++ (es ++ rest) → Reached ⟨document, unavailable⟩ R schemas done s →
      name ∉ es.map (·.1) → .failed name why ∈ (steps ⟨document, unavailable⟩ s es).warnings →
      .failed name why ∈ s.warnings
  | [], _, _, _, _, _, _, hwhy => hwhy
  | e :: es, done, rest, s, hsplit, h, hname, hwhy => by
      rw [List.map_cons, List.mem_cons, not_or] at hname
      have he : e ∈ schemas := by simp [hsplit]
      have hstep : Step ⟨document, unavailable⟩ R s e.1 e.2 _ :=
        step_spec hset.toReading (hset.component e he) (hset.references e he) s
      have hlater := hstep.later h.idleTypes h.idleModels
      refine hlater.failed_warning hname.1 ?_
      exact failed_before hset (by simpa using hsplit) (h.step hset hsplit) hname.2 hwhy

end Reached

end Typewright.Extraction
