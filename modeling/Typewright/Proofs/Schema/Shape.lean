/-
# What the shape of an object schema can be

A shape is merged from own properties, from members, and from what references among the members lead
to.  One principle (`mergeAll_yields`) carries every fact of a shape through that merging: it has to
hold of own properties and of what references give, and pass through a merge.  Three facts follow:
no property has two names, no part of a shape refers to more than the schema does, and a shape never
fails because of an unavailable model.
-/
import Typewright.Proofs.Document.Reference

namespace Typewright

/-- What an outcome is: a value of one kind, or a failure of another. -/
def Yields {ε α : Type} (P : α → Prop) (F : ε → Prop) : Except ε α → Prop
  | .ok a => P a
  | .error e => F e

theorem Yields.bind {ε α β : Type} {P : α → Prop} {Q : β → Prop} {F : ε → Prop}
    {x : Except ε α} {f : α → Except ε β} (hx : Yields P F x) (hf : ∀ a, P a → Yields Q F (f a)) :
    Yields Q F (x >>= f) := by
  cases x with
  | error e => exact hx
  | ok a => exact hf a hx

theorem Yields.mono {ε α : Type} {P : α → Prop} {F F' : ε → Prop} {x : Except ε α}
    (h : Yields P F x) (hF : ∀ e, F e → F' e) : Yields P F' x := by
  cases x with
  | error e => exact hF e h
  | ok a => exact h

theorem Yields.imp {ε α : Type} {P P' : α → Prop} {F : ε → Prop} {x : Except ε α}
    (h : Yields P F x) (hP : ∀ a, P a → P' a) : Yields P' F x := by
  cases x with
  | error e => exact h
  | ok a => exact hP a h

namespace Shape

/-! ## The merging -/

/-- What has to hold for a fact of shapes to be carried through the merging: `Q` is what is known of
the schemas that are merged, `P` is the fact, and `F` is what is known of failures. -/
structure Carried (document : Value) (Q : Value → Prop) (P : Shape → Prop) (F : Failure → Prop) :
    Prop where
  entry : ∀ {es}, Q (.map es) → ∀ e ∈ es, Q e.2
  item : ∀ {vs}, Q (.list vs) → ∀ v ∈ vs, Q v
  component : ∀ {vs}, Q (.tuple vs) → ∀ v ∈ vs, Q v
  resolve : ∀ {es s target}, Q (.map es) → (Value.map es).get? "$ref" = some (.text s) →
    Document.resolve document (.text s) = .ok target → Q target
  own : ∀ {es}, Q (.map es) → Yields P F (own (.map es))
  empty : P {}
  merge : ∀ {a b}, P a → P b → P (a.merge b)
  fault : ∀ f, F (.fault f)
  circular : ∀ s, F (.problem (.circularMembers s))
  broken : ∀ b, F (.ofReference b)

variable {document : Value} {Q : Value → Prop} {P : Shape → Prop} {F : Failure → Prop}

theorem mergeAll_yields (h : Carried document Q P F) {follow : Value → Except Failure Shape}
    (hfollow : ∀ {es ref}, Q (.map es) → (Value.map es).get? "$ref" = some ref →
      Yields P F (follow ref)) : ∀ v, Q v → Yields P F (mergeAll follow v) := by
  refine (mergeAll.mutual_induct
    (fun v => Q v → Yields P F (mergeAll follow v))
    (fun es => (∀ e ∈ es, Q e.2) → Yields P F (mergeMembers follow es))
    (fun v => Q v → Yields P F (mergeMember follow v))
    (fun done vs => P done → (∀ v ∈ vs, Q v) → Yields P F (mergeItems follow done vs))
    ?map ?notMap ?list ?tuple ?set ?mapping ?text ?bytes ?given ?notGiven ?noItem ?reference
    ?schema ?noSchema ?noEntry ?members ?otherEntry).1
  case map =>
    intro es ih hq
    rw [mergeAll]
    exact (ih (h.entry hq)).bind fun members hm => (h.own hq).bind fun o ho => h.merge hm ho
  case notMap =>
    intro v hv _
    rw [mergeAll]
    · exact h.fault _
    · exact hv
  case list | tuple =>
    intro items ih hq
    rw [mergeMember]
    exact ih h.empty (by first | exact h.item hq | exact h.component hq)
  case set | mapping | text | bytes =>
    intro _ _
    rw [mergeMember]
    exact h.empty
  case given | notGiven =>
    intro v h₁ h₂ h₃ h₄ h₅ h₆ hgiven _
    rw [mergeMember]
    · simp only [hgiven]
      first | exact h.fault _ | exact h.empty
    all_goals assumption
  case noItem =>
    intro done hdone _
    rw [mergeItems]
    exact hdone
  case reference =>
    intro done es r ref href ih hdone hq
    rw [mergeItems]
    simp only [href]
    refine (hfollow (hq _ List.mem_cons_self) href).bind fun part hpart => ?_
    exact ih part (h.merge hdone hpart) fun v hv => hq v (List.mem_cons_of_mem _ hv)
  case schema =>
    intro done es r href ihmap ih hdone hq
    rw [mergeItems]
    simp only [href]
    refine (ihmap (hq _ List.mem_cons_self)).bind fun part hpart => ?_
    exact ih part (h.merge hdone hpart) fun v hv => hq v (List.mem_cons_of_mem _ hv)
  case noSchema =>
    intro done v r hv ih hdone hq
    rw [mergeItems]
    · exact ih hdone fun v hv => hq v (List.mem_cons_of_mem _ hv)
    · exact hv
  case noEntry =>
    intro _
    rw [mergeMembers]
    exact h.empty
  case members =>
    intro k v r hk ih hq
    rw [mergeMembers, if_pos hk]
    exact ih (hq (k, v) List.mem_cons_self)
  case otherEntry =>
    intro k v r hk ih hq
    rw [mergeMembers, if_neg hk]
    exact ih fun e he => hq e (List.mem_cons_of_mem _ he)

theorem after_yields (h : Carried document Q P F) :
    ∀ (more : Nat) (followed : List String) (v : Value), Q v →
      Yields P F (after document more followed v)
  | 0, _, _, _ => h.fault _
  | more + 1, followed, v, hv => by
      rw [after]
      refine mergeAll_yields h (fun hes href => ?_) v hv
      split
      · exact h.fault _
      · rename_i s _
        split
        · exact h.circular s
        · split
          · rename_i target htarget
            exact after_yields h more _ target (h.resolve hes href htarget)
          · exact h.broken _
      · exact h.broken _

theorem ofSchema_yields (h : Carried document Q P F) {schema : Value} (hq : Q schema) :
    Yields P F (ofSchema document schema) :=
  after_yields h _ _ schema hq

/-! ## Own properties -/

theorem map_declare (name : String) (schema : Value) :
    ∀ ps : List (String × Value), (declare name schema ps).map (·.1) = require (ps.map (·.1)) name
  | [] => rfl
  | (n, s) :: r => by
      have ih := map_declare name schema r
      rw [declare]
      by_cases hn : n = name
      · subst hn
        simp [require]
      · have hne : ¬ name = n := fun h => hn h.symm
        rw [if_neg (by simpa using hn), List.map_cons, ih]
        simp only [require, List.map_cons, List.contains_cons]
        split <;> simp_all

theorem nodup_require {names : List String} (h : names.Nodup) (name : String) :
    (require names name).Nodup := by
  unfold require
  split
  · exact h
  · rename_i hn
    rw [List.nodup_append]
    refine ⟨h, List.pairwise_singleton _ _, fun a ha b hb => ?_⟩
    obtain rfl := List.mem_singleton.mp hb
    exact fun hab => hn (List.contains_iff_mem.mpr (hab ▸ ha))

theorem mem_declare {name : String} {schema : Value} {p : String × Value} :
    ∀ {ps : List (String × Value)}, p ∈ declare name schema ps → p = (name, schema) ∨ p ∈ ps
  | [], h => .inl (List.mem_singleton.mp h)
  | (n, s) :: r, h => by
      rw [declare] at h
      split at h
      · rename_i hn
        rcases List.mem_cons.mp h with rfl | h
        · exact .inl (congrArg (·, schema) (by simpa using hn))
        · exact .inr (List.mem_cons_of_mem _ h)
      · rcases List.mem_cons.mp h with rfl | h
        · exact .inr List.mem_cons_self
        · exact (mem_declare h).imp id (List.mem_cons_of_mem _)

/-- Declaring properties one after the other, each under a name made from it. -/
theorem foldl_declare_induction {α : Type} {M : List (String × Value) → Prop}
    {name : α → String} {schema : α → Value} :
    ∀ {es : List α} {ps : List (String × Value)}, M ps →
      (∀ e ∈ es, ∀ ps, M ps → M (declare (name e) (schema e) ps)) →
      M (es.foldl (fun ps e => declare (name e) (schema e) ps) ps)
  | [], _, hps, _ => hps
  | e :: es, ps, hps, hstep => by
      have hrest : ∀ d ∈ es, ∀ ps, M ps → M (declare (name d) (schema d) ps) :=
        fun d hd => hstep d (List.mem_cons_of_mem _ hd)
      rw [List.foldl_cons]
      exact foldl_declare_induction (hstep e List.mem_cons_self ps hps) hrest

/-- The own properties of a schema are declared in turn, and nothing is a failure but a wrong shape
of the two keys that are read. -/
theorem own_yields {entries : List (Value × Value)} {M : List (String × Value) → Prop}
    (hnil : M [])
    (hstep : ∀ es, (Value.map entries).get "properties" = .map es →
      ∀ e ∈ es, ∀ ps, M ps → M (declare e.1.plain e.2 ps))
    (hproperties : F (.problem .propertiesShape)) (hrequired : F (.problem .requiredShape)) :
    Yields (fun s => M s.properties) F (own (.map entries)) := by
  unfold own
  dsimp only
  split
  · split
    · exact hnil
    · split
      · exact hnil
      · exact hrequired
  · split
    · rename_i es hes
      have hall : M (es.foldl (fun ps e => declare e.1.plain e.2 ps) []) :=
        foldl_declare_induction hnil (hstep es hes)
      split
      · exact hall
      · split
        · exact hall
        · exact hrequired
    · exact hproperties

/-! ## Three facts of shapes -/

/-- No property of a shape has two declarations. -/
theorem nodup_properties {schema : Value} {shape : Shape}
    (h : ofSchema document schema = .ok shape) : (shape.properties.map (·.1)).Nodup := by
  have hdeclare : ∀ (ps : List (String × Value)) (name : String) (schema : Value),
      (ps.map (·.1)).Nodup → ((declare name schema ps).map (·.1)).Nodup := by
    intro ps name schema hps
    rw [map_declare]
    exact nodup_require hps name
  have hcarried : Carried document (fun _ => True) (fun s => (s.properties.map (·.1)).Nodup)
      (fun _ => True) := {
    entry := fun _ _ _ => trivial
    item := fun _ _ _ => trivial
    component := fun _ _ _ => trivial
    resolve := fun _ _ _ => trivial
    own := fun _ => own_yields (M := fun ps => (ps.map (·.1)).Nodup) List.nodup_nil
      (fun _ _ e _ ps hps => hdeclare ps e.1.plain e.2 hps) trivial trivial
    empty := List.nodup_nil
    merge := fun ha _ => foldl_declare_induction ha fun p _ ps hps => hdeclare ps p.1 p.2 hps
    fault := fun _ => trivial
    circular := fun _ => trivial
    broken := fun _ => trivial }
  have hyields : Yields _ _ (ofSchema document schema) := ofSchema_yields hcarried trivial
  rwa [h] at hyields

/-- The properties of a shape refer to nothing that the schemas it is merged from do not. -/
theorem refersIn_properties {A : String → Prop}
    (hresolve : ∀ {r target}, A r → Document.resolve document (.text r) = .ok target →
      target.RefersIn A)
    {schema : Value} {shape : Shape} (hschema : schema.RefersIn A)
    (h : ofSchema document schema = .ok shape) : ∀ p ∈ shape.properties, p.2.RefersIn A := by
  have hdeclare : ∀ (ps : List (String × Value)) (name : String) (schema : Value),
      schema.RefersIn A → (∀ p ∈ ps, p.2.RefersIn A) →
      ∀ p ∈ declare name schema ps, p.2.RefersIn A := by
    intro ps name schema hs hps p hp
    rcases mem_declare hp with rfl | hp
    · exact hs
    · exact hps p hp
  have hcarried : Carried document (Value.RefersIn A)
      (fun s => ∀ p ∈ s.properties, p.2.RefersIn A) (fun _ => True) := {
    entry := fun h _ he => h.entry he
    item := fun h _ hv => h.item hv
    component := fun h _ hv => h.component hv
    resolve := fun h href htarget => hresolve (h.ref_key href) htarget
    own := fun {es} h => own_yields (fun _ hp => absurd hp List.not_mem_nil)
      (fun fs hfs e he ps hps =>
        hdeclare ps e.1.plain e.2 ((hfs ▸ h.get "properties").entry he) hps) trivial trivial
    empty := fun _ hp => absurd hp List.not_mem_nil
    merge := fun ha hb => foldl_declare_induction ha
      fun p hp ps hps => hdeclare ps p.1 p.2 (hb p hp) hps
    fault := fun _ => trivial
    circular := fun _ => trivial
    broken := fun _ => trivial }
  have := ofSchema_yields hcarried hschema
  rwa [h] at this

/-- No shape fails because a model is unavailable. -/
theorem ofSchema_ne_unavailable (schema : Value) (name : String) :
    ofSchema document schema ≠ .error (.problem (.unavailable name)) := by
  have hcarried : Carried document (fun _ => True) (fun _ => True)
      (fun e => e ≠ .problem (.unavailable name)) := {
    entry := fun _ _ _ => trivial
    item := fun _ _ _ => trivial
    component := fun _ _ _ => trivial
    resolve := fun _ _ _ => trivial
    own := fun _ => own_yields (M := fun _ => True) trivial (fun _ _ _ _ _ _ => trivial)
      (by simp) (by simp)
    empty := trivial
    merge := fun _ _ => trivial
    fault := fun _ => by simp
    circular := fun _ => by simp
    broken := fun _ hb => nomatch Failure.eq_of_ofReference hb }
  intro h
  have hyields : Yields _ _ (ofSchema document schema) := ofSchema_yields hcarried trivial
  rw [h] at hyields
  exact hyields rfl

end Shape

/-- No scalar is complex. -/
theorem Schema.isScalar_of_isComplex {document schema : Value}
    (h : Schema.isComplex document schema = .ok true) : Schema.isScalar schema = false := by
  have htype : Schema.type? schema = none ∨ Schema.type? schema = some "object" := by
    unfold Schema.isComplex at h
    dsimp only at h
    split at h
    · split at h
      · rename_i htype
        simpa using htype
      · exact nomatch h
    · exact .inr (by simpa using (Bool.and_eq_true_iff.mp (Except.ok.inj h)).1)
  unfold Schema.isScalar
  rcases htype with htype | htype <;> rw [htype]
  · rfl
  · decide

/-- Whether a schema is complex is never left open by a problem of the schema. -/
theorem Schema.isComplex_ne_problem (document schema : Value) (p : Problem) :
    Schema.isComplex document schema ≠ .error (.problem p) := by
  unfold Schema.isComplex
  dsimp only
  split
  · split
    · split
      · exact fun h => nomatch h
      · exact fun h => nomatch h
      · rename_i why hwhy _
        exact fun h => hwhy p (Except.error.inj h)
    · exact fun h => nomatch h
  · exact fun h => nomatch h

end Typewright
