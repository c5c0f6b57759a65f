/-
# More unavailable models, more failures

Two passes over the same schemas are run side by side, the second one with more models unavailable.
At every point the first one knows at least the types that the second one knows, and it gets on
where the second one does (`Outdoes`).  What is known matters: a type that is known is not worked
out again, so that knowing fewer types could otherwise turn a failure into a success.

Inline types are named differently in the two passes.  Their names do not decide whether anything
succeeds, as none of them is empty.
-/
import Typewright.Proofs.Extraction.Pass

namespace Typewright.Extraction

/-! ## Comparing runs -/

/-- Whether a type is known under a name. -/
def State.Knows (s : State) (name : String) : Prop := ∃ t, s.known.lookup name = some t

theorem knows_learned {s : State} {name n : String} {t : DataType} :
    (s.learned name t).Knows n ↔ n = name ∨ s.Knows n := by
  unfold State.Knows State.learned
  by_cases hn : n = name
  · subst hn
    simp
  · have hne : (n == name) = false := by simpa using hn
    simp [List.lookup_cons, hne, hn]

theorem Grows.knows {scope : Scope} {R : String → Value → Prop} {owner : String} {s s' : State}
    (h : Grows scope R owner s s') {n : String} : s.Knows n → s'.Knows n :=
  fun ⟨t, ht⟩ => ⟨t, h.known ht⟩

/-- A state in which more is known than in another one. -/
def State.Above (s t : State) : Prop := ∀ n, t.Knows n → s.Knows n

/-- How two states compare depends on what is known in them. -/
theorem State.Above.of_known {s s' t t' : State} (h : s.Above t) (hs : s'.known = s.known)
    (ht : t'.known = t.known) : s'.Above t' := by
  intro n hn
  unfold State.Knows at *
  rw [hs]
  rw [ht] at hn
  exact h n hn

/-- A run comes at least as far as another run. Where the other one succeeds it does so as well,
with results that are related; where the other one meets an unavailable model it does not fail for
another reason. -/
structure Outdoes {α β : Type} (Q : α → β → Prop) (r : Except Failure α × State)
    (r' : Except Failure β × State) : Prop where
  above : r.2.Above r'.2
  ok : ∀ {v}, r'.1 = .ok v → ∃ u, r.1 = .ok u ∧ Q u v
  unavailable : ∀ {target}, r'.1 = .error (.problem (.unavailable target)) →
    (∃ u, r.1 = .ok u) ∨ ∃ target, r.1 = .error (.problem (.unavailable target))

section Outdoes

variable {α β : Type} {Q : α → β → Prop} {s t : State}

theorem Outdoes.ok_ok {u : α} {v : β} (h : s.Above t) (hQ : Q u v) :
    Outdoes Q (.ok u, s) (.ok v, t) where
  above := h
  ok := fun hv => ⟨u, rfl, Except.ok.inj hv ▸ hQ⟩
  unavailable := fun h => nomatch h

/-- Nothing has to be shown of a run whose counterpart fails for good. -/
theorem Outdoes.of_error {r : Except Failure α × State} {e : Failure} (h : r.2.Above t)
    (he : ∀ target, e ≠ .problem (.unavailable target)) : Outdoes Q r (.error e, t) where
  above := h
  ok := fun h => nomatch h
  unavailable := fun h => absurd (Except.error.inj h) (he _)

theorem Outdoes.unavailable_both {target target' : String} (h : s.Above t) :
    Outdoes Q (.error (.problem (.unavailable target)), s)
      (.error (.problem (.unavailable target')), t) where
  above := h
  ok := fun h => nomatch h
  unavailable := fun _ => .inr ⟨_, rfl⟩

theorem Outdoes.ok_error {u : α} {e : Failure} (h : s.Above t) :
    Outdoes Q (.ok u, s) (.error e, t) where
  above := h
  ok := fun h => nomatch h
  unavailable := fun _ => .inl ⟨u, rfl⟩

/-- Of two runs that fail, the results do not matter. -/
theorem Outdoes.error_error {α' β' : Type} {Q' : α' → β' → Prop} {e e' : Failure}
    (h : Outdoes Q (.error e, s) (.error e', t)) : Outdoes Q' (.error e, s) (.error e', t) where
  above := h.above
  ok := fun h => nomatch h
  unavailable := by
    intro target he
    rcases h.unavailable (congrArg Except.error (Except.error.inj he)) with ⟨_, h⟩ | ⟨n, h⟩
    · exact nomatch h
    · exact .inr ⟨n, congrArg Except.error (Except.error.inj h)⟩

/-- Cases on two runs of which the second one meets no unavailable model: both fail, only the first
one succeeds, or both do. -/
@[elab_as_elim]
theorem Outdoes.elim {motive : Except Failure α × State → Except Failure β × State → Prop}
    {r : Except Failure α × State} {r' : Except Failure β × State} (h : Outdoes Q r r')
    (hnever : ∀ target, r'.1 ≠ .error (.problem (.unavailable target)))
    (neither : ∀ e e' s t, s.Above t → (∀ target, e' ≠ .problem (.unavailable target)) →
      motive (.error e, s) (.error e', t))
    (alone : ∀ u e' s t, s.Above t → (∀ target, e' ≠ .problem (.unavailable target)) →
      motive (.ok u, s) (.error e', t))
    (both : ∀ u v s t, s.Above t → Q u v → motive (.ok u, s) (.ok v, t)) : motive r r' := by
  rcases r with ⟨e | u, s⟩ <;> rcases r' with ⟨e' | v, t⟩
  · exact neither e e' s t h.above fun target he => hnever target (he ▸ rfl)
  · obtain ⟨u, hu, -⟩ := h.ok rfl
    exact nomatch hu
  · exact alone u e' s t h.above fun target he => hnever target (he ▸ rfl)
  · obtain ⟨u', hu, hQ⟩ := h.ok rfl
    cases hu
    exact both u v s t h.above hQ

end Outdoes

/-! ## Types -/

/-- Results that are both there, or the first one alone. -/
def AtLeast {α : Type} (u v : Option α) : Prop := v.isSome → u.isSome

theorem namedType_outdoes {s t : State} (h : s.Above t) (name : String) (schema : Value) :
    Outdoes (fun _ _ => True) ((namedType name schema).run.run s)
      ((namedType name schema).run.run t) := by
  rw [run_namedType, run_namedType]
  have hnot := (scalar_notes name schema).not_problem
  cases ht : t.known.lookup name with
  | some v =>
      obtain ⟨u, hu⟩ := h name ⟨v, ht⟩
      simp only [hu]
      exact .ok_ok h trivial
  | none =>
      cases hs : s.known.lookup name with
      | some u =>
          cases hv : outcome (scalar name schema) with
          | ok v =>
              refine .ok_ok (fun n hn => ?_) trivial
              rcases knows_learned.mp hn with rfl | hn
              · exact ⟨u, hs⟩
              · exact h n hn
          | error e => exact .of_error h fun target he => hnot _ (he ▸ hv)
      | none =>
          cases hv : outcome (scalar name schema) with
          | ok v =>
              refine .ok_ok (fun n hn => knows_learned.mpr ?_) trivial
              exact (knows_learned.mp hn).imp id (h n)
          | error e => exact .of_error h fun target he => hnot _ (he ▸ hv)

theorem plainType_outdoes {s t : State} (h : s.Above t) (name : String) (schema : Value) :
    Outdoes AtLeast ((plainType name schema).run.run s) ((plainType name schema).run.run t) := by
  have hpended : ∀ (s : State) (d : DataType),
      (if s.isEmitted d.name then s else s.pended d).known = s.known := by
    intro s d
    split <;> rfl
  rw [run_plainType, run_plainType]
  refine (namedType_outdoes h name schema).elim (namedType_never name schema t) ?_ ?_ ?_
  · exact fun _ _ _ _ h he => .of_error h he
  · exact fun u _ s' _ h he => .of_error (h.of_known (hpended s' u) rfl) he
  · exact fun u v s' t' h _ => .ok_ok (h.of_known (hpended s' u) (hpended t' v)) fun _ => rfl

theorem modelReference_ok {name : String} (h : name ≠ "") (schema : Value) :
    ∃ t, Schema.modelReference name schema = .ok t ∧ t.name = name ∧ t.kind = .object := by
  unfold Schema.modelReference
  rw [if_neg (by simpa using h)]
  exact ⟨_, rfl, rfl, rfl⟩

section Unavailable

variable {document : Value} {U V : List String}

theorem referenceType_outdoes (hUV : U ⊆ V) (hV : "" ∉ V) {s t : State} (h : s.Above t)
    (ref : Value) :
    Outdoes AtLeast ((referenceType ⟨document, U⟩ ref).run.run s)
      ((referenceType ⟨document, V⟩ ref).run.run t) := by
  rw [run_referenceType, run_referenceType]
  cases hreferent : referent document ref with
  | error e =>
      exact .of_error h fun target he =>
        referent_ne_unavailable document ref target (he ▸ hreferent)
  | ok found =>
      obtain ⟨name, target⟩ := found
      dsimp only
      split
      · -- a scalar with facets
        refine (namedType_outdoes h name target).elim (namedType_never name target t) ?_ ?_ ?_
        · exact fun _ _ _ _ h he => .of_error h he
        · exact fun _ _ _ _ h he => .of_error h he
        · exact fun _ _ _ _ h _ => .ok_ok h fun _ => rfl
      · cases hcomplex : Schema.isComplex document target with
        | error e =>
            exact .of_error h fun n he => Schema.isComplex_ne_problem _ _ _ (he ▸ hcomplex)
        | ok complex =>
            cases complex with
            | true =>
                -- a model: only here does it matter which models are unavailable
                dsimp only
                by_cases hv : V.contains name = true
                · rw [if_pos hv]
                  have hname : name ≠ "" := fun hname => hV (hname ▸ by simpa using hv)
                  obtain ⟨d, hd, -⟩ := modelReference_ok hname target
                  rw [hd]
                  split
                  · exact .unavailable_both h
                  · exact .ok_error h
                · have hu : ¬U.contains name = true := fun hu =>
                    hv (by simpa using hUV (by simpa using hu))
                  rw [if_neg hv, if_neg hu]
                  cases hd : Schema.modelReference name target with
                  | ok d => exact .ok_ok h id
                  | error e =>
                      exact .of_error h fun n he => modelReference_ne_unavailable _ _ n (he ▸ hd)
            | false =>
                dsimp only
                split
                · exact plainType_outdoes h name target
                · exact .ok_ok h id

/-- A scalar succeeds under one name as under another. -/
theorem scalar_ok {name other : String} (h : name ≠ "") {schema : Value} {t : DataType}
    (ht : outcome (scalar other schema) = .ok t) : ∃ t', outcome (scalar name schema) = .ok t' := by
  obtain ⟨_, cs, hcs, -⟩ := (Schema.outcome_scalarType_eq_ok "").mp ht
  exact ⟨_, (Schema.outcome_scalarType_eq_ok "").mpr ⟨h, cs, hcs, rfl⟩⟩

theorem typeOf_outdoes (hUV : U ⊆ V) (hV : "" ∉ V) {build build' : Builder} {schema : Value}
    (hbuild : ∀ name name' s t, name ≠ "" → name' ≠ "" → s.Above t →
      Outdoes (fun _ _ => True) ((build name schema).run.run s) ((build' name' schema).run.run t))
    (hnever : ∀ name, NeverUnavailable (build' name schema)) {hint hint' : String}
    (hhint : hint ≠ "") (hhint' : hint' ≠ "") {s t : State} (h : s.Above t) :
    Outdoes AtLeast ((typeOf build ⟨document, U⟩ hint schema).run.run s)
      ((typeOf build' ⟨document, V⟩ hint' schema).run.run t) := by
  rw [run_typeOf, run_typeOf]
  cases Schema.ref? schema with
  | some ref => exact referenceType_outdoes hUV hV h ref
  | none =>
      have hname : Name.fresh s.taken (Name.pascal hint) ≠ "" := inlineNameOf_ne_empty s hhint
      have hname' : Name.fresh t.taken (Name.pascal hint') ≠ "" := inlineNameOf_ne_empty t hhint'
      generalize Name.fresh s.taken (Name.pascal hint) = name at hname
      generalize Name.fresh t.taken (Name.pascal hint') = name' at hname'
      dsimp only
      split
      · cases hv : outcome (scalar name' schema) with
        | ok v =>
            obtain ⟨u, hu⟩ := scalar_ok hname hv
            rw [hu]
            exact .ok_ok h fun _ => rfl
        | error e =>
            have herror : ∀ target, e ≠ .problem (.unavailable target) :=
              fun target he => (scalar_notes name' schema).not_problem _ (he ▸ hv)
            cases outcome (scalar name schema) with
            | ok u => exact .of_error h herror
            | error e' => exact .of_error h herror
      · cases hcomplex : Schema.isComplex document schema with
        | error e =>
            exact .of_error h fun n he => Schema.isComplex_ne_problem _ _ _ (he ▸ hcomplex)
        | ok complex =>
            cases complex with
            | false => exact .ok_ok h id
            | true =>
                obtain ⟨u, hu, -⟩ := modelReference_ok hname schema
                obtain ⟨v, hv, -⟩ := modelReference_ok hname' schema
                dsimp only
                rw [hu, hv]
                refine (hbuild name name' (s.took name) (t.took name') hname hname' h).elim
                  (hnever name' (t.took name')) ?_ ?_ ?_
                · exact fun _ _ _ _ h he => .of_error h he
                · exact fun _ _ _ _ h he => .of_error h he
                · exact fun _ _ _ _ h _ => .ok_ok h fun _ => rfl

/-- The schema that decides a type is found for one owner as for another; only a failure names the
owner. -/
theorem typeSource_owner {owner owner' property : String} {schema : Value} {r : Value × Bool}
    (h : typeSource document owner property schema = .ok r) :
    typeSource document owner' property schema = .ok r := by
  unfold typeSource at h ⊢
  split at h
  · exact nomatch h
  · exact h
  · dsimp only at h ⊢
    split at h
    · rename_i hitems
      rw [if_pos hitems]
      exact h
    · exact nomatch h

/-! ## Properties and models -/

/-- Two ways to build inline models, of which the first one does at least as well. -/
def BuildsMore (build build' : Builder) : Prop :=
  ∀ name name' schema s t, name ≠ "" → name' ≠ "" → s.Above t →
    Outdoes (fun _ _ => True) ((build name schema).run.run s) ((build' name' schema).run.run t)

variable {build build' : Builder} {owner owner' : String}

theorem propertyType_outdoes (hUV : U ⊆ V) (hV : "" ∉ V) (hbuild : BuildsMore build build')
    (hnever : ∀ x name, NeverUnavailable (build' name x)) (howner : owner ≠ "")
    (howner' : owner' ≠ "") {s t : State} (h : s.Above t) (name : String) (schema : Value) :
    Outdoes (fun u v => AtLeast u.1 v.1)
      ((propertyType build ⟨document, U⟩ owner name schema).run.run s)
      ((propertyType build' ⟨document, V⟩ owner' name schema).run.run t) := by
  rw [run_propertyType, run_propertyType]
  cases hx' : typeSource document owner' name schema with
  | error e =>
      have herror : ∀ target, e ≠ .problem (.unavailable target) := fun target he =>
        typeSource_ne_unavailable document owner' name schema target (he ▸ hx')
      cases hx : typeSource document owner name schema with
      | error e' => exact .of_error h herror
      | ok r =>
          rw [typeSource_owner hx] at hx'
          exact nomatch hx'
  | ok r =>
      obtain ⟨x, c⟩ := r
      have htype : Outdoes AtLeast
          ((typeOf build ⟨document, U⟩ (hint owner name x c) x).run.run s)
          ((typeOf build' ⟨document, V⟩ (hint owner' name x c) x).run.run t) :=
        typeOf_outdoes hUV hV (fun name name' => hbuild name name' x) (hnever x)
          (hint_ne_empty howner name x c) (hint_ne_empty howner' name x c) h
      rw [typeSource_owner hx']
      dsimp only
      revert htype
      rcases (typeOf build ⟨document, U⟩ (hint owner name x c) x).run.run s with ⟨e | u, s'⟩ <;>
        rcases (typeOf build' ⟨document, V⟩ (hint owner' name x c) x).run.run t with ⟨e' | v, t'⟩
      · exact fun htype => htype.error_error
      · intro htype
        obtain ⟨u, hu, -⟩ := htype.ok rfl
        exact nomatch hu
      · exact fun htype => .ok_error htype.above
      · intro htype
        obtain ⟨u', hu, huv⟩ := htype.ok rfl
        cases hu
        exact .ok_ok htype.above huv

theorem property_outdoes (hUV : U ⊆ V) (hV : "" ∉ V) (hbuild : BuildsMore build build')
    (hnever : ∀ x name, NeverUnavailable (build' name x)) (howner : owner ≠ "")
    (howner' : owner' ≠ "") (required : List String) {s t : State} (h : s.Above t) (name : String)
    (schema : Value) :
    Outdoes AtLeast ((property build ⟨document, U⟩ owner required name schema).run.run s)
      ((property build' ⟨document, V⟩ owner' required name schema).run.run t) := by
  by_cases hmap : schema.isMap = true
  · have htype : Outdoes (fun u v => AtLeast u.1 v.1)
        ((propertyType build ⟨document, U⟩ owner name schema).run.run s)
        ((propertyType build' ⟨document, V⟩ owner' name schema).run.run t) :=
      propertyType_outdoes hUV hV hbuild hnever howner howner' h name schema
    rcases hrun : (propertyType build' ⟨document, V⟩ owner' name schema).run.run t
      with ⟨e' | ⟨v, c'⟩, t'⟩
    · rw [hrun] at htype
      by_cases he : ∃ target, e' = .problem (.unavailable target)
      · -- the property is left out, and the other run goes on as well
        obtain ⟨target, rfl⟩ := he
        rw [run_property, run_property, if_pos hmap, if_pos hmap, hrun]
        have hgoes := htype.unavailable rfl
        revert htype hgoes
        rcases (propertyType build ⟨document, U⟩ owner name schema).run.run s
          with ⟨e | ⟨_ | u, c⟩, s'⟩
        · rintro htype (⟨_, he⟩ | ⟨n, he⟩)
          · exact nomatch he
          · cases he
            exact .ok_ok htype.above fun h => nomatch h
        · exact fun htype _ => .ok_ok htype.above fun h => nomatch h
        · exact fun htype _ => .ok_ok htype.above fun h => nomatch h
      · have herror := not_exists.mp he
        rw [run_property_error ⟨document, V⟩ required hmap hrun herror]
        refine .of_error (fun n hn => ?_) herror
        unfold State.Knows
        rw [property_known s ⟨document, U⟩ build owner required name hmap]
        exact htype.above n hn
    · rw [hrun] at htype
      rw [run_property, run_property, if_pos hmap, if_pos hmap, hrun]
      obtain ⟨⟨u, c⟩, hu, huv⟩ := htype.ok rfl
      revert htype hu
      rcases (propertyType build ⟨document, U⟩ owner name schema).run.run s with ⟨r, s'⟩
      rintro htype rfl
      cases v with
      | none => cases u <;> exact .ok_ok htype.above fun h => nomatch h
      | some v =>
          cases u with
          | none => exact nomatch huv rfl
          | some u => exact .ok_ok htype.above fun _ => rfl
  · rw [run_property, run_property, if_neg hmap, if_neg hmap]
    exact .ok_ok h id

theorem properties_outdoes (hUV : U ⊆ V) (hV : "" ∉ V) (hbuild : BuildsMore build build')
    (hnever : ∀ x name, NeverUnavailable (build' name x)) (howner : owner ≠ "")
    (howner' : owner' ≠ "") (required : List String)
    (hknows : ∀ ps s n, s.Knows n →
      ((properties build ⟨document, U⟩ owner required ps).run.run s).2.Knows n) :
    ∀ (ps : List (String × Value)) {s t : State}, s.Above t →
      Outdoes (fun u v => v ≠ [] → u ≠ [])
        ((properties build ⟨document, U⟩ owner required ps).run.run s)
        ((properties build' ⟨document, V⟩ owner' required ps).run.run t)
  | [], s, t, h => .ok_ok h id
  | (name, schema) :: rest, s, t, h => by
      have hfirst : Outdoes AtLeast
          ((property build ⟨document, U⟩ owner required name schema).run.run s)
          ((property build' ⟨document, V⟩ owner' required name schema).run.run t) :=
        property_outdoes hUV hV hbuild hnever howner howner' required h name schema
      have hfine := property_never build' ⟨document, V⟩ owner' required name schema t
      rw [run_properties_cons, run_properties_cons]
      revert hfirst hfine
      generalize (property build ⟨document, U⟩ owner required name schema).run.run s = first
      generalize (property build' ⟨document, V⟩ owner' required name schema).run.run t = first'
      intro hfirst hfine
      refine hfirst.elim hfine ?_ ?_ ?_
      · exact fun _ _ _ _ h he => .of_error h he
      · -- this run goes on alone, and knows no less for it
        intro u e s' t' h he
        refine .of_error (fun n hn => ?_) he
        have hrest := hknows rest s' n (h n hn)
        dsimp only
        revert hrest
        rcases (properties build ⟨document, U⟩ owner required rest).run.run s' with ⟨e | us, s''⟩
          <;> exact id
      · intro u v s' t' h huv
        have hrest := properties_outdoes hUV hV hbuild hnever howner howner' required hknows rest h
        dsimp only
        refine hrest.elim (properties_never build' ⟨document, V⟩ owner' required rest t') ?_ ?_ ?_
        · exact fun _ _ _ _ h he => .of_error h he
        · exact fun _ _ _ _ h he => .of_error h he
        · intro us vs _ _ h hsome
          refine .ok_ok h fun hvs => ?_
          cases v with
          | none => exact fun h => hsome hvs (List.append_eq_nil_iff.mp h).2
          | some v =>
              obtain ⟨w, rfl⟩ := Option.isSome_iff_exists.mp (huv rfl)
              exact List.cons_ne_nil _ _

theorem modelWithin_knows {scope : Scope} (depth : Nat) (owner : String) (required : List String)
    (ps : List (String × Value)) (s : State) (n : String) (h : s.Knows n) :
    ((properties (modelWithin scope depth) scope owner required ps).run.run s).2.Knows n := by
  have hgrows : Grows scope (Referred scope.document) owner s _ :=
    properties_grows (Reading.any scope.document) required
      (modelWithin_grows (Reading.any scope.document) depth)
      (fun x name => modelWithin_never depth name x) ps (fun _ _ _ _ => trivial) s
  exact hgrows.knows h

/-- With fewer unavailable models, every model does at least as well. -/
theorem modelWithin_outdoes (hUV : U ⊆ V) (hV : "" ∉ V) (depth : Nat) :
    BuildsMore (modelWithin ⟨document, U⟩ depth) (modelWithin ⟨document, V⟩ depth) := by
  induction depth with
  | zero => exact fun _ _ _ _ _ _ _ h => .of_error h fun _ he => nomatch he
  | succ depth ih =>
      intro name name' schema s t hname hname' h
      rw [modelWithin_succ, modelWithin_succ, run_modelWith, run_modelWith]
      cases hshape : Shape.ofSchema document schema with
      | error e =>
          exact .of_error h fun n he => Shape.ofSchema_ne_unavailable schema n (he ▸ hshape)
      | ok shape =>
          have hall : Outdoes (fun u v => v ≠ [] → u ≠ [])
              ((properties (modelWithin ⟨document, U⟩ depth) ⟨document, U⟩ name shape.required
                shape.properties).run.run s)
              ((properties (modelWithin ⟨document, V⟩ depth) ⟨document, V⟩ name' shape.required
                shape.properties).run.run t) :=
            properties_outdoes hUV hV ih
              (fun x n => modelWithin_never depth n x) hname hname' shape.required
              (modelWithin_knows depth name shape.required) shape.properties h
          dsimp only
          refine hall.elim (properties_never (modelWithin ⟨document, V⟩ depth) ⟨document, V⟩ name'
            shape.required shape.properties t) ?_ ?_ ?_
          · exact fun _ _ _ _ h he => .of_error h he
          · intro us e s' t' h he
            refine .of_error ?_ he
            dsimp only
            split <;> exact h
          · intro us vs s' t' h hsome
            dsimp only
            by_cases hvs : vs.isEmpty = true
            · rw [if_pos hvs]
              refine .of_error ?_ fun n he => nomatch he
              split <;> exact h
            · have hus : ¬us.isEmpty = true := by simpa using hsome (by simpa using hvs)
              rw [if_neg hvs, if_neg hus]
              exact .ok_ok h trivial

/-! ## Passes -/

theorem namedType_failed (s : State) (name : String) (schema : Value) :
    ((namedType name schema).run.run s).2.failed = s.failed := by
  rw [run_namedType]
  cases s.known.lookup name with
  | some t => rfl
  | none => cases outcome (scalar name schema) <;> rfl

theorem model_failed (scope : Scope) (s : State) (name : String) (schema : Value) :
    ((model scope name schema).run.run s).2.failed = s.failed := by
  have hgrows : Grows scope (Referred scope.document) name s _ :=
    modelWithin_grows (Reading.any scope.document) maxNesting name schema (fun _ _ => trivial) s
  exact hgrows.failed

theorem began_subset {s t : State} (h : s.failed ⊆ t.failed) (name : String) :
    (s.began name).failed ⊆ (t.began name).failed :=
  fun _ hn => mem_began.mpr ((mem_began.mp hn).imp (@h _) id)

theorem step_mono (hUV : U ⊆ V) (hV : "" ∉ V) {name : String} (hname : name ≠ "") (schema : Value)
    {s t : State} (h : s.Above t) (hfailed : s.failed ⊆ t.failed) :
    (step ⟨document, U⟩ s name schema).Above (step ⟨document, V⟩ t name schema) ∧
      (step ⟨document, U⟩ s name schema).failed ⊆ (step ⟨document, V⟩ t name schema).failed := by
  rw [step_eq, step_eq, run_namedSchema, run_namedSchema]
  by_cases hmap : schema.isMap = true
  · simp only [hmap, Bool.not_true, Bool.false_eq_true, if_false]
    by_cases hsimple : Schema.isSimple schema = true
    · rw [if_pos hsimple, if_pos hsimple]
      have hnamed := namedType_outdoes h name schema
      have hs := namedType_failed s name schema
      have ht := namedType_failed t name schema
      revert hnamed hs ht
      rcases (namedType name schema).run.run s with ⟨e | u, s'⟩ <;>
        rcases (namedType name schema).run.run t with ⟨e' | v, t'⟩ <;>
        intro hnamed hs ht
      · exact ⟨hnamed.above, fun n hn => ht ▸ hfailed (hs ▸ hn)⟩
      · obtain ⟨u, hu, -⟩ := hnamed.ok rfl
        exact nomatch hu
      · dsimp only
        rw [State.emit_eq]
        exact ⟨hnamed.above, fun n hn => ht ▸ hfailed (hs ▸ hn)⟩
      · dsimp only
        rw [State.emit_eq, State.emit_eq]
        exact ⟨hnamed.above, fun n hn => ht ▸ hfailed (hs ▸ hn)⟩
    · rw [if_neg hsimple, if_neg hsimple]
      cases Schema.isComplex document schema with
      | error e => exact ⟨h, hfailed⟩
      | ok complex =>
          cases complex with
          | false => exact ⟨h, hfailed⟩
          | true =>
              have hmodel : Outdoes (fun _ _ => True)
                  ((model ⟨document, U⟩ name schema).run.run (s.began name))
                  ((model ⟨document, V⟩ name schema).run.run (t.began name)) :=
                modelWithin_outdoes hUV hV maxNesting name name schema _ _ hname hname h
              have hs := model_failed ⟨document, U⟩ (s.began name) name schema
              have ht := model_failed ⟨document, V⟩ (t.began name) name schema
              have hbegan := began_subset hfailed name
              dsimp only
              revert hmodel hs ht
              rcases (model ⟨document, U⟩ name schema).run.run (s.began name)
                with ⟨e | u, s'⟩ <;>
                rcases (model ⟨document, V⟩ name schema).run.run (t.began name)
                  with ⟨e' | v, t'⟩ <;>
                intro hmodel hs ht
              · exact ⟨hmodel.above, fun n hn => ht ▸ hbegan (hs ▸ hn)⟩
              · obtain ⟨u, hu, -⟩ := hmodel.ok rfl
                exact nomatch hu
              · exact ⟨hmodel.above, fun n hn =>
                  ht ▸ hbegan (hs ▸ (List.mem_filter.mp hn).1)⟩
              · refine ⟨hmodel.above, fun n hn => List.mem_filter.mpr ?_⟩
                obtain ⟨hn, hne⟩ := List.mem_filter.mp hn
                exact ⟨ht ▸ hbegan (hs ▸ hn), hne⟩
  · simp only [hmap, Bool.not_false, if_true]
    exact ⟨h, hfailed⟩

/-- Making more models unavailable only makes more models fail. -/
theorem pass_failed_mono {schemas : List (String × Value)} (hUV : U ⊆ V) (hV : "" ∉ V)
    (hnames : "" ∉ schemas.map (·.1)) :
    (pass document schemas U).failed ⊆ (pass document schemas V).failed := by
  have hall : ∀ (rest : List (String × Value)) (s t : State), (∀ e ∈ rest, e.1 ≠ "") →
      s.Above t → s.failed ⊆ t.failed →
      (rest.foldl (fun s e => step ⟨document, U⟩ s e.1 e.2) s).failed ⊆
        (rest.foldl (fun t e => step ⟨document, V⟩ t e.1 e.2) t).failed := by
    intro rest
    induction rest with
    | nil => exact fun _ _ _ _ hfailed => hfailed
    | cons e rest ih =>
        intro s t hrest h hfailed
        have hstep :
            State.Above (step ⟨document, U⟩ s e.1 e.2) (step ⟨document, V⟩ t e.1 e.2) ∧ _ :=
          step_mono hUV hV (hrest e List.mem_cons_self) e.2 h hfailed
        exact ih _ _ (fun d hd => hrest d (List.mem_cons_of_mem _ hd)) hstep.1 hstep.2
  exact hall schemas _ _ (fun e he h => hnames (h ▸ List.mem_map_of_mem he)) (fun _ h => h)
    fun _ h => h

end Unavailable

end Typewright.Extraction
