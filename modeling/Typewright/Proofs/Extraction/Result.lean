/-
# What a pass gives

After a pass every model is accounted for by the schema that describes it, and every data type
belongs to a simple component schema or to a field of a model (`Accounts`).
-/
import Typewright.Proofs.Extraction.Fixpoint
import Typewright.Proofs.Extraction.Owned

namespace Typewright.Extraction

/-- Every model and every data type of a state has its origin, after the steps for some of the
schemas. -/
structure Accounts (scope : Scope) (schemas done : List (String × Value)) (s : State) : Prop where
  models : ∀ m ∈ s.models, ∃ schema shape,
    Describes scope.document schemas s.models m schema ∧ Accounted scope s m schema shape
  types : ∀ t ∈ s.dataTypes,
    (∃ schema, (t.name, schema) ∈ done ∧ Schema.isSimple schema = true ∧
      s.known.lookup t.name = some t ∧ ∀ why, .failed t.name why ∉ s.warnings) ∨
    Owned scope.document (Describes scope.document schemas s.models) s.models
      (schemas.map (·.1)) s t

theorem Describes.mem {document : Value} {schemas : List (String × Value)} {models : List Model}
    {m : Model} {x : Value} (h : Describes document schemas models m x) : m ∈ models := by
  cases h with
  | component hm _ => exact hm
  | part _ hm _ => exact hm

theorem Describes.mono {document : Value} {schemas : List (String × Value)}
    {models models' : List Model} (hsub : models ⊆ models') {m : Model} {x : Value}
    (h : Describes document schemas models m x) : Describes document schemas models' m x := by
  induction h with
  | component hm he => exact .component (hsub hm) he
  | part _ hm hpart ih => exact .part ih (hsub hm) hpart

section Steps

variable {scope : Scope} {R : String → Value → Prop} {schemas : List (String × Value)}
  {s s' : State} {name : String} {schema : Value}

/-- The models that a step emits are accounted for. -/
theorem Step.accounted (h : Step scope R s name schema s') (hidle : s.pendingModels = [])
    (he : (name, schema) ∈ schemas) (hname : name ∈ s.taken) (htidy : Tidy s)
    (hskipped : skippedOf name s.warnings = []) : ∀ m ∈ s'.models, m ∈ s.models ∨
      ∃ x shape, Describes scope.document schemas s'.models m x ∧ Accounted scope s' m x shape := by
  intro m hm
  cases h.emitted with
  | nothing _ hmodels => exact .inl (hmodels ▸ hm)
  | type _ _ hgrows =>
      rw [State.emit_eq] at hm
      exact .inl (hgrows.models ▸ hm)
  | @model shape fields s₁ _ _ _ hshape hfields hne hgrows =>
      have hlast : modelOf name schema fields ∈
          (s₁.finished name (modelOf name schema fields)).models :=
        List.mem_append_right _ (List.mem_append_right _ List.mem_cons_self)
      have hdescribed : Describes scope.document schemas
          (s₁.finished name (modelOf name schema fields)).models
          (modelOf name schema fields) schema := .component hlast he
      have hcarries := carries_finished s₁ name (modelOf name schema fields)
      rcases List.mem_append.mp hm with hm | hm
      · have hm' : m ∈ (s.began name).models := hgrows.models ▸ hm
        exact .inl hm'
      · rcases List.mem_append.mp hm with hm | hm
        · -- an inline model
          rcases hfields.accounted_parts (fun h hin hpart => .part h hin hpart)
            (.whole hlast hdescribed hshape)
            (fun _ h => List.mem_append_right _ (List.mem_append_left _ h)) hname htidy m hm
            with hm | ⟨x, shape', hx, haccounted⟩
          · have hm' : m ∈ s.pendingModels := hm
            rw [hidle] at hm'
            exact absurd hm' List.not_mem_nil
          · exact .inr ⟨x, shape', hx, haccounted.mono hcarries rfl⟩
        · obtain rfl := List.mem_singleton.mp hm
          have haccounted := hfields.accounted hshape hne hname hskipped
          exact .inr ⟨schema, shape, hdescribed, haccounted.mono hcarries rfl⟩

/-- The types that a step emits have their origin. -/
theorem Step.owned (h : Step scope R s name schema s') (hidle : s.pendingTypes = [])
    (hknown : KnownUnder R s) (he : (name, schema) ∈ schemas)
    (hnames : schemas.map (·.1) ⊆ s.taken) (hgood : ∀ why, .failed name why ∉ s.warnings) :
    ∀ t ∈ s'.dataTypes, t ∈ s.dataTypes ∨
      (t.name = name ∧ Schema.isSimple schema = true ∧ s'.known.lookup t.name = some t ∧
        ∀ why, .failed t.name why ∉ s'.warnings) ∨
      Owned scope.document (Describes scope.document schemas s'.models) s'.models
        (schemas.map (·.1)) s' t := by
  intro t ht
  cases h.emitted with
  | nothing htypes _ => exact .inl (htypes ▸ ht)
  | @type t₀ s₁ hsimple hrun hgrows =>
      have hlookup := (namedType_ok hrun).1
      have hname := (hknown.grows hgrows).name hlookup
      rw [State.emit_eq] at ht ⊢
      rcases mem_emitAll ht with ht | ht
      · exact .inl (hgrows.dataTypes ▸ ht)
      · obtain rfl := List.mem_singleton.mp ht
        exact .inr (.inl ⟨hname, hsimple, hname ▸ hlookup, fun why hwhy =>
          hgood why (hname ▸ hgrows.failed_warning hwhy)⟩)
  | @model shape fields s₁ _ _ _ hshape hfields _ hgrows =>
      have hlast : modelOf name schema fields ∈
          (s₁.finished name (modelOf name schema fields)).models :=
        List.mem_append_right _ (List.mem_append_right _ List.mem_cons_self)
      rcases mem_emitAll ht with ht | ht
      · have ht' : t ∈ (s.began name).dataTypes := hgrows.dataTypes ▸ ht
        exact .inl ht'
      · rcases hfields.owned (fun h hin hpart => Describes.part h hin hpart)
          (.whole hlast (Describes.component hlast he) hshape)
          (fun _ h => List.mem_append_right _ (List.mem_append_left _ h)) hnames t ht with ht | ht
        · have ht' : t ∈ s.pendingTypes := ht
          rw [hidle] at ht'
          exact absurd ht' List.not_mem_nil
        · exact .inr (.inr (ht.mono id (fun _ h => h) (carries_finished s₁ name _)))

end Steps

section Result

variable {document : Value} {unavailable : List String} {schemas : List (String × Value)}
  {A : String → Prop} {R : String → Value → Prop}

theorem Reached.tidy {scope : Scope} {done : List (String × Value)} {s : State}
    (h : Reached scope R schemas done s) : Tidy s := by
  intro w hw m p hskip
  rcases h.warnings w hw with ⟨e, _, habout⟩ | hnoted
  · exact nomatch habout.skipped.symm.trans hskip
  · exact (hnoted.skipped hskip).1

/-- No property of a component schema has been left out before its turn. -/
theorem Reached.unskipped {scope : Scope} {done : List (String × Value)} {s : State}
    (h : Reached scope R schemas done s) {e : String × Value} (he : e ∈ schemas)
    (hnew : ∀ d ∈ done, d.1 ≠ e.1) : skippedOf e.1 s.warnings = [] := by
  refine skippedOf_eq_nil fun w hw p hskip => ?_
  rcases h.warnings w hw with ⟨d, _, habout⟩ | hnoted
  · exact nomatch habout.skipped.symm.trans hskip
  · obtain ⟨d, hd, hname⟩ :=
      List.mem_map.mp ((hnoted.skipped hskip).2 (List.mem_map_of_mem he))
    exact hnew d hd hname

theorem Accounts.step (hset : Setting document schemas A R) {done rest : List (String × Value)}
    {e : String × Value} (hsplit : schemas = done ++ e :: rest) {s : State}
    (hreached : Reached ⟨document, unavailable⟩ R schemas done s)
    (h : Accounts ⟨document, unavailable⟩ schemas done s) :
    Accounts ⟨document, unavailable⟩ schemas (done ++ [e])
      (Extraction.step ⟨document, unavailable⟩ s e.1 e.2) := by
  have he : e ∈ schemas := by simp [hsplit]
  have hnew := hset.new hsplit
  have hstep : Step ⟨document, unavailable⟩ R s e.1 e.2 _ :=
    step_spec hset.toReading (hset.component e he) (hset.references e he) s
  generalize Extraction.step ⟨document, unavailable⟩ s e.1 e.2 = s' at hstep
  have hlater := hstep.later hreached.idleTypes hreached.idleModels
  have hcarries := hlater.carries hreached.idleTypes hreached.idleModels
  constructor
  · intro m hm
    rcases hstep.accounted hreached.idleModels he (hreached.taken e he) hreached.tidy
      (hreached.unskipped he hnew) m hm with hm | hm
    · obtain ⟨schema, shape, hdescribes, haccounted⟩ := h.models m hm
      obtain ⟨htaken, hdone⟩ := hreached.models m hm
      have hne : m.name ≠ e.1 := by
        intro hname
        obtain ⟨_, hd, _⟩ := hdone (hname ▸ List.mem_map_of_mem he)
        exact hnew _ hd hname
      exact ⟨schema, shape, hdescribes.mono hlater.models.subset,
        haccounted.mono hcarries (hlater.skippedOf htaken hne)⟩
    · exact hm
  · have hgood := hreached.unfailed hnew
    have hnames : schemas.map (·.1) ⊆ s.taken := fun n hn => by
      obtain ⟨d, hd, rfl⟩ := List.mem_map.mp hn
      exact hreached.taken d hd
    intro t ht
    rcases hstep.owned hreached.idleTypes hreached.known he hnames hgood t ht with
      ht | ⟨hname, hown⟩ | ht
    · rcases h.types t ht with ⟨schema, hin, hsimple, hknown, hnot⟩ | howned
      · exact .inl ⟨schema, List.mem_append_left _ hin, hsimple, hlater.known hknown,
          fun why hwhy => hnot why (hlater.failed_warning (hnew _ hin) hwhy)⟩
      · have hmodels := hlater.models.subset
        exact .inr (howned.mono (fun h => h.mono hmodels) hmodels hcarries)
    · exact .inl ⟨e.2, by simp [hname], hown⟩
    · exact .inr ht

theorem accounts_pass (hset : Setting document schemas A R) :
    Accounts ⟨document, unavailable⟩ schemas schemas (pass document schemas unavailable) := by
  have hboth : Reached ⟨document, unavailable⟩ R schemas schemas
      (pass document schemas unavailable) ∧
      Accounts ⟨document, unavailable⟩ schemas schemas (pass document schemas unavailable) :=
    pass_induction (P := fun done s => Reached ⟨document, unavailable⟩ R schemas done s ∧
      Accounts ⟨document, unavailable⟩ schemas done s)
      ⟨.start, fun _ h => absurd h List.not_mem_nil, fun _ h => absurd h List.not_mem_nil⟩
      fun _ _ _ _ hsplit ⟨hreached, h⟩ => ⟨hreached.step hset hsplit, h.step hset hsplit hreached⟩
  exact hboth.2

/-- The result is that of a pass whose failures were all unavailable to begin with. -/
theorem run_accounted (hs : Document.schemas document = .ok schemas)
    (hset : Setting document schemas A R) :
    ∃ U, run document = .ok (pass document schemas U) ∧ (pass document schemas U).failed ⊆ U ∧
      Reached ⟨document, U⟩ R schemas schemas (pass document schemas U) ∧
      Accounts ⟨document, U⟩ schemas schemas (pass document schemas U) := by
  obtain ⟨k, hk, hclosed, hopen⟩ := first_closed document schemas
  exact ⟨_, run_eq (passes_eq hs hk hclosed hopen), hclosed, reached_pass hset, accounts_pass hset⟩

end Result

end Typewright.Extraction
