/-
# What a schema that fails leaves behind

A component schema that fails emits nothing, and what was pending for it is given up.  The names
that were given to its inline types are not: they stay taken, so that later inline types of those
names get other ones.

The extraction of a document is set beside that of the document in which the content of the schema
is empty (`Emptied`).  The passes of both stop with the same models unavailable, but for the schema
itself (`unavailableAlike`, `closed`), and their last passes differ in the names that are left
behind (`beside`).  So the results are the same if none of these names is taken without the schema.
A name that is left behind is not in the result (`not_given`), hence the results differ if it is
given without the schema.
-/
import Typewright.Proofs.Document.Replace
import Typewright.Proofs.Extraction.Beside
import Typewright.Proofs.Extraction.Closed
import Typewright.Proofs.Extraction.Fixpoint
import Typewright.Proofs.Extraction.Referenced

namespace Typewright.Extraction

/-! ## Names that are given -/

/-- A data type or a model has a name. -/
def Given (s : State) (n : String) : Prop :=
  n ∈ s.dataTypes.map (·.name) ∨ n ∈ s.models.map (·.name)

section Given

variable {document : Value} {scope : Scope} {U : List String} {schemas : List (String × Value)}
  {A : String → Prop} {R : String → Value → Prop} {s s' : State} {n : String}

/-- A name that nothing is read under is given in a step only if it was free. -/
theorem Step.given (hread : Reading scope.document A R) {name : String} {schema : Value}
    (h : Step scope R s name schema s') (hname : R name schema) (hschema : schema.RefersIn A)
    (hknown : KnownUnder R s) (htypes : s.pendingTypes = []) (hmodels : s.pendingModels = [])
    (hn : ∀ x, ¬R n x) (hgiven : Given s' n) : Given s n ∨ n ∉ s.taken ∧ n ∈ s'.taken := by
  have hne : n ≠ name := fun heq => hn schema (heq ▸ hname)
  rcases hgiven with hgiven | hgiven
  · cases h.emitted with
    | nothing htypes _ => exact .inl (.inl (htypes ▸ hgiven))
    | @type t s₁ _ hrun hgrows =>
        have hlookup := (namedType_ok hrun).1
        have htname : t.name ≠ n := fun heq => hne (heq ▸ (hknown.grows hgrows).name hlookup)
        rw [State.emit_eq, mem_names_emitAll, hgrows.dataTypes] at hgiven
        simp only [List.map_append, List.map_cons, List.map_nil, List.mem_append,
          List.mem_singleton] at hgiven
        exact .inl (.inl (hgiven.resolve_right fun heq => htname heq.symm))
    | @model _ _ s₁ _ _ _ hshape hfields _ _ =>
        have hrefs := Shape.refersIn_properties hread.refersIn hschema hshape
        have hknown' : KnownUnder R (s.began name) := hknown
        have hin : n ∈ s₁.typeNames := (mem_names_emitAll _ _).mp hgiven
        rcases hfields.mem_typeNames hread hrefs hknown' n hin with hin | ⟨x, hin⟩ | hin
        · have hidle : (s.began name).pendingTypes = [] := htypes
          rw [State.typeNames, hidle, List.append_nil] at hin
          exact .inl (.inl hin)
        · exact absurd hin (hn x)
        · exact .inr hin
  · obtain ⟨m, hm, rfl⟩ := List.mem_map.mp hgiven
    rcases h.mem_models hmodels m hm with hm | hm | ⟨hm, -⟩
    · exact .inl (.inr (List.mem_map_of_mem hm))
    · exact .inr hm
    · exact absurd hm hne

/-- The names that have been given are taken, if nothing is read under them. -/
theorem given_taken (hset : Setting document schemas A R) (hn : ∀ x, ¬R n x)
    {done rest : List (String × Value)} (hsplit : schemas = done ++ rest)
    (hgiven : Given (steps ⟨document, U⟩ (start schemas) done) n) :
    n ∈ (steps ⟨document, U⟩ (start schemas) done).taken := by
  have hall : Reached ⟨document, U⟩ R schemas done (steps ⟨document, U⟩ (start schemas) done) ∧
      (Given (steps ⟨document, U⟩ (start schemas) done) n →
        n ∈ (steps ⟨document, U⟩ (start schemas) done).taken) := by
    refine steps_induction (P := fun done s => Reached ⟨document, U⟩ R schemas done s ∧
      (Given s n → n ∈ s.taken)) ?_ hsplit
      ⟨.start, fun h => h.elim (fun h => nomatch h) fun h => nomatch h⟩
    rintro done e rest s hsplit ⟨hreached, htaken⟩
    refine ⟨hreached.step hset hsplit, fun hgiven => ?_⟩
    have he : e ∈ schemas := by simp [hsplit]
    have hstep : Step ⟨document, U⟩ R s e.1 e.2 _ :=
      step_spec hset.toReading (hset.component e he) (hset.references e he) s
    rcases hstep.given hset.toReading (hset.component e he) (hset.references e he) hreached.known
      hreached.idleTypes hreached.idleModels hn hgiven with hgiven | ⟨-, hin⟩
    · exact (hstep.later hreached.idleTypes hreached.idleModels).taken (htaken hgiven)
    · exact hin
  exact hall.2 hgiven

/-- A name that is taken and has not been given is not given later on. -/
theorem not_given_later (hset : Setting document schemas A R) (hn : ∀ x, ¬R n x)
    {es done rest : List (String × Value)} (hsplit : schemas = done ++ (es ++ rest))
    (hreached : Reached ⟨document, U⟩ R schemas done s) (htaken : n ∈ s.taken)
    (hnot : ¬Given s n) : ¬Given (steps ⟨document, U⟩ s es) n := by
  have hall : Reached ⟨document, U⟩ R schemas (done ++ es) (steps ⟨document, U⟩ s es) ∧
      n ∈ (steps ⟨document, U⟩ s es).taken ∧ ¬Given (steps ⟨document, U⟩ s es) n := by
    refine steps_induction (P := fun done s => Reached ⟨document, U⟩ R schemas done s ∧
      n ∈ s.taken ∧ ¬Given s n) ?_ hsplit ⟨hreached, htaken, hnot⟩
    rintro done e rest s hsplit ⟨hreached, htaken, hnot⟩
    have he : e ∈ schemas := by simp [hsplit]
    have hstep : Step ⟨document, U⟩ R s e.1 e.2 _ :=
      step_spec hset.toReading (hset.component e he) (hset.references e he) s
    have hlater := hstep.later hreached.idleTypes hreached.idleModels
    refine ⟨hreached.step hset hsplit, hlater.taken htaken, fun hgiven => ?_⟩
    rcases hstep.given hset.toReading (hset.component e he) (hset.references e he) hreached.known
      hreached.idleTypes hreached.idleModels hn hgiven with hgiven | ⟨hfree, -⟩
    · exact hnot hgiven
    · exact hfree htaken
  exact hall.2.2

end Given

/-! ## A document in which one schema is empty -/

/-- The references of a schema, and those of what they lead to. -/
inductive Refers (document schema : Value) : String → Prop
  | own {r : String} : r ∈ schema.references → Refers document schema r
  | next {r r' : String} {target : Value} : Refers document schema r →
      Document.resolve document (.text r) = .ok target → r' ∈ target.references →
      Refers document schema r'

variable {document document' : Value} {schemas before after : List (String × Value)} {S : String}
  {x : Value} {A : String → Prop} {R : String → Value → Prop} {U V : List String}

/-- Two documents of which the second one has an empty schema where the first one has the schema
`S`. References lead to the same in both and to nothing of that name, and the schemas that are read
under a name that `S` refers to give one type. -/
structure Emptied (document document' : Value) (schemas before after : List (String × Value))
    (S : String) (x : Value) (A : String → Prop) (R : String → Value → Prop) : Prop
    extends Setting document schemas A R where
  split : schemas = before ++ (S, x) :: after
  components : Document.schemas document = .ok schemas
  components' : Document.schemas document' = .ok (Document.withEmpty schemas S)
  targets : SameTargets A document document'
  avoid : ∀ {r name}, A r → Document.targetName (.text r) = .ok name → name ≠ S
  own : OneType R S
  referred : Reading document (Refers document x) fun name y => OneType R name ∧ R name y

/-- The same names, one apart. -/
def Alike (S : String) (U V : List String) : Prop := ∀ n, n ≠ S → (n ∈ U ↔ n ∈ V)

/-- The state in a pass when it is the turn of a schema. -/
def atTurn (document : Value) (schemas before : List (String × Value)) (U : List String) : State :=
  steps ⟨document, U⟩ (start schemas) before

/-- A pass takes the steps for the schemas before one of them, for that schema, and for the others.
-/
theorem pass_split (document : Value) (hsplit : schemas = before ++ (S, x) :: after)
    (U : List String) : pass document schemas U =
      steps ⟨document, U⟩ (step ⟨document, U⟩ (atTurn document schemas before U) S x) after := by
  rw [pass_eq]
  unfold atTurn
  generalize start schemas = s
  rw [hsplit]
  unfold steps
  rw [List.foldl_append, List.foldl_cons]

/-- Passes start side by side. -/
theorem beside_start {N : List String} (hN : (start schemas).Free N → N = []) :
    Beside R (schemas.map (·.1)) N (start schemas) (start schemas) where
  known := fun _ _ h => nomatch h
  known' := fun _ _ h => nomatch h
  sameKnown := fun _ => .inr rfl
  taken := fun _ hn => hn
  taken' := fun _ hn => hn
  same := fun hfree => ⟨by simp [hN hfree], rfl, rfl, rfl, rfl⟩

/-- An empty schema changes nothing. -/
theorem step_empty (scope : Scope) (s : State) (name : String) :
    step scope s name (.map []) = s.noted [.untyped name] := by
  rw [step_eq, run_namedSchema]
  rfl

/-- An empty schema does not fail. -/
theorem not_failed (document : Value) (schemas : List (String × Value)) (S : String)
    (U : List String) : S ∉ failures document (Document.withEmpty schemas S) U := by
  have hall : S ∉ (pass document (Document.withEmpty schemas S) U).failed ∧
      (pass document (Document.withEmpty schemas S) U).pendingTypes = [] ∧
      (pass document (Document.withEmpty schemas S) U).pendingModels = [] := by
    refine pass_induction (P := fun _ s => S ∉ s.failed ∧ s.pendingTypes = [] ∧
      s.pendingModels = []) ⟨List.not_mem_nil, rfl, rfl⟩ ?_
    rintro done e rest s hsplit ⟨hfailed, htypes, hmodels⟩
    by_cases hname : e.1 = S
    · have he : e ∈ Document.withEmpty schemas S := by simp [hsplit]
      rw [Document.eq_of_mem_withEmpty he hname, step_empty]
      exact ⟨hfailed, htypes, hmodels⟩
    · have hstep : Step ⟨document, U⟩ (fun _ _ => True) s e.1 e.2 _ :=
        step_spec ⟨fun _ _ _ _ => trivial, fun _ _ => trivial⟩ trivial (A := fun _ => True)
          (fun _ _ => trivial) s
      have hlater := hstep.later htypes hmodels
      exact ⟨fun hin => hfailed ((hlater.failed S (Ne.symm hname)).mp hin), hlater.idleTypes,
        hlater.idleModels⟩
  exact hall.1

namespace Emptied

variable (h : Emptied document document' schemas before after S x A R)

include h

theorem parallel (hUV : Alike S U V) : Parallel A R ⟨document, U⟩ ⟨document', V⟩ where
  toReading := h.toReading
  targets := h.targets
  unavailable := fun hr hname => by
    rw [Bool.eq_iff_iff, List.contains_iff_mem, List.contains_iff_mem, hUV _ (h.avoid hr hname)]

theorem mem : (S, x) ∈ schemas := by simp [h.split]

theorem split_next : schemas = (before ++ [(S, x)]) ++ (after ++ []) := by simp [h.split]

/-- What is read of a schema. -/
theorem reads {e : String × Value} (he : e ∈ before ∨ e ∈ after) :
    e.1 ∈ schemas.map (·.1) ∧ R e.1 e.2 ∧ e.2.RefersIn A := by
  have he : e ∈ schemas := by
    rw [h.split, List.mem_append]
    exact he.imp_right (List.mem_cons_of_mem _)
  exact ⟨List.mem_map_of_mem he, h.component e he, h.references e he⟩

theorem reached (U : List String) :
    Reached ⟨document, U⟩ R schemas before (atTurn document schemas before U) :=
  reached_steps h.toSetting h.split

theorem reached_next (U : List String) : Reached ⟨document, U⟩ R schemas (before ++ [(S, x)])
    (step ⟨document, U⟩ (atTurn document schemas before U) S x) :=
  (h.reached U).step h.toSetting h.split

theorem stepped (U : List String) : Step ⟨document, U⟩ R (atTurn document schemas before U) S x
    (step ⟨document, U⟩ (atTurn document schemas before U) S x) :=
  step_spec h.toReading (h.component _ h.mem) (h.references _ h.mem) _

theorem later (U : List String) : Later ⟨document, U⟩ R S (atTurn document schemas before U)
    (step ⟨document, U⟩ (atTurn document schemas before U) S x) :=
  (h.stepped U).later (h.reached U).idleTypes (h.reached U).idleModels

/-- What becomes known in the step for the schema does not matter to other schemas. -/
theorem sameKnown (U : List String) (n : String) : OneType R n ∨
    (step ⟨document, U⟩ (atTurn document schemas before U) S x).known.lookup n =
      (atTurn document schemas before U).known.lookup n := by
  have hstep : Step ⟨document, U⟩ (fun name y => OneType R name ∧ R name y)
      (atTurn document schemas before U) S x _ :=
    step_spec h.referred ⟨h.own, h.component _ h.mem⟩ (fun _ hr => .own hr) _
  have hlater := hstep.later (h.reached U).idleTypes (h.reached U).idleModels
  cases hknown : (step ⟨document, U⟩ (atTurn document schemas before U) S x).known.lookup n with
  | none =>
      cases hbefore : (atTurn document schemas before U).known.lookup n with
      | none => exact .inr rfl
      | some t => exact nomatch (hlater.known hbefore).symm.trans hknown
  | some t =>
      rcases hlater.read hknown with hbefore | ⟨_, ⟨hone, -⟩, -⟩
      · exact .inr hbefore.symm
      · exact .inl hone

/-- The step for the schema, which changes nothing where the schema is empty, keeps two states side
by side as far as types and models have come out the same. -/
theorem beside_step {N N' : List String} {t : State}
    (ht : Beside R (schemas.map (·.1)) N (atTurn document schemas before U) t)
    (hsame : t.Free N' →
      SameBut N' (step ⟨document, U⟩ (atTurn document schemas before U) S x) t) :
    Beside R (schemas.map (·.1)) N'
      (step ⟨document, U⟩ (atTurn document schemas before U) S x) (t.noted [.untyped S]) where
  known := (h.reached_next U).known
  known' := ht.known'
  sameKnown := fun n => by
    rcases h.sameKnown U n with hone | heq
    · exact .inl hone
    · exact (ht.sameKnown n).imp_right heq.trans
  taken := fun _ hn => (h.later U).taken (ht.taken hn)
  taken' := ht.taken'
  same := hsame

/-- Passes are side by side if they are so before and after the step for the schema itself. -/
theorem passes_beside (hUV : Alike S U V) {N N' : List String}
    (hstart : Beside R (schemas.map (·.1)) N (start schemas) (start schemas))
    (hself : ∀ t, Beside R (schemas.map (·.1)) N (atTurn document schemas before U) t →
      Beside R (schemas.map (·.1)) N'
        (step ⟨document, U⟩ (atTurn document schemas before U) S x) (t.noted [.untyped S])) :
    Beside R (schemas.map (·.1)) N' (pass document schemas U)
        (pass document' (Document.withEmpty schemas S) V) ∧
      FailedAlike S (pass document schemas U)
        (pass document' (Document.withEmpty schemas S) V) := by
  have hp := h.parallel hUV
  have hsplit' : Document.withEmpty schemas S = before ++ (S, .map []) :: after := by
    rw [h.split]
    exact Document.withEmpty_split (h.split ▸ h.nodup)
  have hturn : atTurn document' (Document.withEmpty schemas S) before V =
      steps ⟨document', V⟩ (start schemas) before := by
    rw [atTurn, start, Document.withEmpty_names, start]
  obtain ⟨hbefore, hfailed⟩ := steps_beside hp (S := S) (fun e he => h.reads (.inl he)) hstart
    fun _ _ => .rfl
  rw [pass_split document h.split, pass_split document' hsplit', step_empty, hturn]
  refine steps_beside hp (fun e he => h.reads (.inr he)) (hself _ hbefore) fun n hn => ?_
  exact ((h.later U).failed n hn).trans (hfailed n hn)

/-- The same models fail, but for the schema itself. -/
theorem failedAlike (hUV : Alike S U V) :
    FailedAlike S (pass document schemas U) (pass document' (Document.withEmpty schemas S) V) := by
  have hS : S ∈ schemas.map (·.1) := List.mem_map_of_mem h.mem
  -- no names need to come out the same: one of those in question is taken from the start
  have hstart : Beside R (schemas.map (·.1)) [S] (start schemas) (start schemas) :=
    beside_start fun hfree => absurd hS (hfree S List.mem_cons_self)
  exact (h.passes_beside hUV hstart fun t ht => h.beside_step ht fun hfree =>
    absurd (ht.taken' hS) (hfree S (List.mem_singleton.mpr rfl))).2

theorem unavailableAlike : ∀ k, Alike S (unavailableAt document schemas k)
    (unavailableAt document' (Document.withEmpty schemas S) k)
  | 0 => fun _ _ => .rfl
  | k + 1 => fun n hn => by
      rw [unavailableAt, unavailableAt, mem_union, mem_union, unavailableAlike k n hn]
      exact or_congr_right (h.failedAlike (unavailableAlike k) n hn)

/-- Once nothing more becomes unavailable, this is so without the schema as well. -/
theorem closed {k : Nat} (hclosed : Closed document schemas (unavailableAt document schemas k)) :
    Closed document' (Document.withEmpty schemas S)
      (unavailableAt document' (Document.withEmpty schemas S) k) := by
  intro n hn
  have halike := h.unavailableAlike k
  have hne : n ≠ S := fun heq => not_failed _ _ _ _ (heq ▸ hn)
  exact (halike n hne).mp (hclosed ((h.failedAlike halike n hne).mpr hn))

end Emptied

/-! ## Names that are left behind -/

/-- The names that a schema has taken when its step in a pass is over. -/
def leftBehind (document : Value) (schemas before : List (String × Value)) (S : String) (x : Value)
    (U : List String) : List String :=
  (step ⟨document, U⟩ (atTurn document schemas before U) S x).taken.filter
    fun n => !(atTurn document schemas before U).taken.contains n

theorem mem_leftBehind {n : String} : n ∈ leftBehind document schemas before S x U ↔
    n ∈ (step ⟨document, U⟩ (atTurn document schemas before U) S x).taken ∧
      n ∉ (atTurn document schemas before U).taken := by
  simp [leftBehind]

namespace Emptied

variable (h : Emptied document document' schemas before after S x A R) {why : Failure}
  (hwhy : .failed S why ∈ (pass document schemas U).warnings)

include h hwhy

theorem quiet : (step ⟨document, U⟩ (atTurn document schemas before U) S x).dataTypes =
      (atTurn document schemas before U).dataTypes ∧
    (step ⟨document, U⟩ (atTurn document schemas before U) S x).models =
      (atTurn document schemas before U).models := by
  have hothers : S ∉ after.map (·.1) := by
    have hnodup := h.split ▸ h.nodup
    rw [List.map_append, List.map_cons, List.nodup_append, List.nodup_cons] at hnodup
    exact hnodup.2.1.1
  rw [pass_split document h.split] at hwhy
  exact (h.stepped U).quiet ((h.reached U).unfailed (h.toSetting.new h.split) why)
    ((h.reached_next U).failed_before h.toSetting h.split_next hothers hwhy)

/-- A pass in which the schema fails differs from one in which it is empty in the names that it has
left behind. -/
theorem beside (hUV : Alike S U V) :
    Beside R (schemas.map (·.1)) (leftBehind document schemas before S x U)
      (pass document schemas U) (pass document' (Document.withEmpty schemas S) V) := by
  have hstart : Beside R (schemas.map (·.1)) [] (start schemas) (start schemas) :=
    beside_start fun _ => rfl
  refine (h.passes_beside hUV hstart fun t ht => h.beside_step ht fun _ => ?_).1
  have hlater := h.later U
  have hreached := h.reached U
  obtain ⟨htypes, hmodels⟩ := h.quiet hwhy
  obtain ⟨htaken, hsame⟩ := ht.same fun _ hn => absurd hn List.not_mem_nil
  refine ⟨fun n => ?_, htypes.trans hsame.1, hmodels.trans hsame.2.1,
    hlater.idleTypes.trans (hreached.idleTypes.symm.trans hsame.2.2.1),
    hlater.idleModels.trans (hreached.idleModels.symm.trans hsame.2.2.2)⟩
  constructor
  · intro hn
    by_cases hin : n ∈ (atTurn document schemas before U).taken
    · exact .inl (((htaken n).mp hin).resolve_right List.not_mem_nil)
    · exact .inr (mem_leftBehind.mpr ⟨hn, hin⟩)
  · rintro (hn | hn)
    · exact hlater.taken ((htaken n).mpr (.inl hn))
    · exact (mem_leftBehind.mp hn).1

/-- A name that is left behind is in no result, if nothing is read under it. -/
theorem not_given {n : String} (hn : n ∈ leftBehind document schemas before S x U)
    (hread : ∀ y, ¬R n y) : ¬Given (pass document schemas U) n := by
  obtain ⟨htaken, hfree⟩ := mem_leftBehind.mp hn
  obtain ⟨htypes, hmodels⟩ := h.quiet hwhy
  rw [pass_split document h.split]
  refine not_given_later h.toSetting hread h.split_next (h.reached_next U) htaken ?_
  unfold Given
  rw [htypes, hmodels]
  exact fun hgiven => hfree (given_taken h.toSetting hread h.split hgiven)

end Emptied

/-- The references of a component schema, and those of what they lead to, occur in the document. -/
theorem Refers.mem {name r : String} (hs : Document.schemas document = .ok schemas)
    (hx : (name, x) ∈ schemas) (hr : Refers document x r) : r ∈ document.references := by
  induction hr with
  | own hr => exact Document.refersIn_schemas hs (fun _ h => h) _ hx _ hr
  | next _ htarget hr _ => exact Document.refersIn_resolve (fun _ h => h) htarget _ hr

/-- Only the component schema itself is read under a name that no reference ends with. -/
theorem oneType_of_avoids (hdifferent : (schemas.map (·.1)).Nodup)
    (havoid : document.RefersIn (Document.Avoids S)) : OneType (ReadUnder document schemas) S := by
  have hcomponent : ∀ y, ReadUnder document schemas S y → (S, y) ∈ schemas := by
    rintro y (hy | ⟨r, hr, hreferent⟩)
    · exact hy
    · exact absurd (referent_eq_ok hreferent).2.1 (havoid r hr).1
  intro y z t hy hz ht
  rwa [← schema_unique hdifferent (hcomponent y hy) (hcomponent z hz)]

theorem emptied (hs : Document.schemas document = .ok schemas)
    (hdifferent : (schemas.map (·.1)).Nodup) (hsplit : schemas = before ++ (S, x) :: after)
    (havoid : document.RefersIn (Document.Avoids S))
    (hone : ∀ r name, Refers document x r → Document.targetName (.text r) = .ok name →
      OneType (ReadUnder document schemas) name) :
    Emptied document (Document.emptied document S) schemas before after S x
      (· ∈ document.references) (ReadUnder document schemas) :=
  have hmem : (S, x) ∈ schemas := by simp [hsplit]
  { Setting.within hs hdifferent with
    split := hsplit
    components := hs
    components' := by rw [Document.schemas_emptied, hs, Except.map]
    targets := ⟨fun _ hr => hr, fun hr => Document.resolve_emptied (havoid _ hr)⟩
    avoid := fun hr hname heq => (havoid _ hr).1 (heq ▸ hname)
    own := oneType_of_avoids hdifferent havoid
    referred := {
      refersIn := fun hr htarget _ hr' => .next hr htarget hr'
      read := fun hr hreferent => ⟨hone _ _ hr (referent_eq_ok hreferent).2.1,
        .inr ⟨_, hr.mem hs hmem, hreferent⟩⟩ } }

/-- Where no reference leads to a component schema or into it, and the schemas that are read under a
name that it refers to give one type, a component schema that fails leaves nothing behind but names
of inline types: those that it has taken in the last pass. If none of them is taken when the schema
is empty, the data types and the models are the same then. They differ if one of the names, under
which nothing is read, is the name of a data type or a model then. -/
theorem failed_leaves_names {document x : Value} {schemas before after : List (String × Value)}
    {S : String} {s : State} {why : Failure} (hs : Document.schemas document = .ok schemas)
    (hdifferent : (schemas.map (·.1)).Nodup) (hsplit : schemas = before ++ (S, x) :: after)
    (havoid : document.RefersIn (Document.Avoids S))
    (hone : ∀ r name, Refers document x r → Document.targetName (.text r) = .ok name →
      OneType (ReadUnder document schemas) name)
    (hrun : run document = .ok s) (hwhy : .failed S why ∈ s.warnings) :
    ∃ U s', Closed document schemas U ∧ s = pass document schemas U ∧
      run (Document.emptied document S) = .ok s' ∧
      ((∀ n ∈ leftBehind document schemas before S x U, n ∉ s'.taken) →
        s'.dataTypes = s.dataTypes ∧ s'.models = s.models) ∧
      ∀ n ∈ leftBehind document schemas before S x U,
        (∀ y, ¬ReadUnder document schemas n y) → Given s' n →
        s'.dataTypes ≠ s.dataTypes ∨ s'.models ≠ s.models := by
  have h := emptied hs hdifferent hsplit havoid hone
  obtain ⟨k, -, hclosed, -⟩ := first_closed document schemas
  cases hrun.symm.trans (run_of_closed hs hclosed)
  refine ⟨_, _, hclosed, rfl, run_of_closed h.components' (h.closed hclosed), fun hfree => ?_,
    fun n hn hread hgiven => ?_⟩
  · have hbeside := h.beside hwhy (h.unavailableAlike k)
    obtain ⟨-, htypes, hmodels, -⟩ := hbeside.same hfree
    exact ⟨htypes.symm, hmodels.symm⟩
  · have hnot := h.not_given hwhy hn hread
    refine not_and_or.mp fun ⟨htypes, hmodels⟩ => hnot ?_
    unfold Given at hgiven ⊢
    rwa [← htypes, ← hmodels]

/-- The schema of a text with a title. -/
def titled (title : String) : Value :=
  .map [(.text "type", .text "string"), (.text "title", .text title)]

/-- An object schema with a titled text, and with an array that has no items. -/
def itemless : Value :=
  .map [(.text "type", .text "object"), (.text "properties", .map [
    (.text "a", titled "Code"), (.text "b", .map [(.text "type", .text "array")])])]

/-- An object schema with a text of the same title. -/
def coded : Value :=
  .map [(.text "type", .text "object"), (.text "properties", .map [(.text "code", titled "Code")])]

/-- A document in which a model with a titled text fails before another one has one. -/
def sharedTitle : Value :=
  .map [(.text "components", .map [(.text "schemas", .map [
    (.text "Broken", itemless), (.text "Pet", coded)])])]

/-- The title is left behind by the model that fails, so that the other one does not get it. -/
theorem sharedTitle_left_behind : ∃ s s', run sharedTitle = .ok s ∧
    .failed "Broken" (.problem (.noItems "Broken" "b")) ∈ s.warnings ∧
    run (Document.emptied sharedTitle "Broken") = .ok s' ∧
    s.dataTypes.map (·.name) = ["Code2"] ∧ s'.dataTypes.map (·.name) = ["Code"] ∧
    (s'.dataTypes ≠ s.dataTypes ∨ s'.models ≠ s.models) := by
  let schemas := [("Broken", itemless), ("Pet", coded)]
  have hs : Document.schemas sharedTitle = .ok schemas := by rfl
  have hsplit : schemas = [] ++ ("Broken", itemless) :: [("Pet", coded)] := by rfl
  have hrefs : sharedTitle.references = [] := by rfl
  obtain ⟨s, hrun⟩ : ∃ s, run sharedTitle = .ok s := ⟨_, by rfl⟩
  have hwarnings : (run sharedTitle).map (·.warnings) =
      .ok [.failed "Broken" (.problem (.noItems "Broken" "b"))] := by rfl
  have htypes : (run sharedTitle).map (·.dataTypes.map (·.name)) = .ok ["Code2"] := by
    decide +kernel
  have htypes' : (run (Document.emptied sharedTitle "Broken")).map
      (·.dataTypes.map (·.name)) = .ok ["Code"] := by
    decide +kernel
  rw [hrun] at hwarnings htypes
  replace hwarnings : s.warnings = _ := Except.ok.inj hwarnings
  have hwhy : .failed "Broken" (.problem (.noItems "Broken" "b")) ∈ s.warnings :=
    hwarnings ▸ List.mem_cons_self
  have hrefers : ∀ r, ¬Refers sharedTitle itemless r := by
    intro r hr
    have hmem : r ∈ sharedTitle.references :=
      hr.mem hs (show ("Broken", itemless) ∈ schemas from List.mem_cons_self)
    exact absurd (hrefs ▸ hmem) List.not_mem_nil
  obtain ⟨U, s', -, -, hrun', -, hdiffer⟩ := failed_leaves_names hs (by decide) hsplit
    (fun r hr => absurd (hrefs ▸ hr) List.not_mem_nil) (fun r _ hr => absurd hr (hrefers r))
    hrun hwhy
  rw [hrun'] at htypes'
  replace htypes' : s'.dataTypes.map (·.name) = ["Code"] := Except.ok.inj htypes'
  have hleft : leftBehind sharedTitle schemas [] "Broken" itemless U = ["Code"] := by rfl
  refine ⟨s, s', hrun, hwhy, hrun', Except.ok.inj htypes, htypes',
    hdiffer "Code" (hleft ▸ List.mem_cons_self) (fun y hread => ?_)
      (.inl (htypes' ▸ List.mem_cons_self))⟩
  rcases hread with hread | ⟨r, hr, -⟩
  · simp [schemas] at hread
  · exact absurd (hrefs ▸ hr) List.not_mem_nil

end Typewright.Extraction
