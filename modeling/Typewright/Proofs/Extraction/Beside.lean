/-
# Two extractions side by side

One extraction is run beside another one that has fewer names taken, in scopes in which the same is
read (`Parallel`).  Names for inline types can come out differently then, and nothing else can: both
succeed, or both fail, and a failure comes from an unavailable model in both of them or in none
(`Ends`).  As long as none of the names that only the first one has taken is given in the second
one, all names come out the same, and so does everything that is found (`Agree`).

What is known under a name may differ between the two where all schemas that are read under the name
give one type (`OneType`), since what is known is then what would be worked out.
-/
import Typewright.Proofs.Extraction.Monotone
import Typewright.Proofs.Schema.Targets

namespace Typewright

/-! ## What is read -/

section Targets

variable {A : String → Prop} {document document' x ref : Value}

theorem SameTargets.resolve_ref? (h : SameTargets A document document') (hx : x.RefersIn A)
    (href : Schema.ref? x = some ref) :
    Document.resolve document' ref = Document.resolve document ref := by
  cases ref with
  | text r => exact h.resolve (hx.ref? href)
  | _ => rfl

theorem SameTargets.referent_eq (h : SameTargets A document document') (hx : x.RefersIn A)
    (href : Schema.ref? x = some ref) :
    Extraction.referent document' ref = Extraction.referent document ref := by
  unfold Extraction.referent
  rw [h.resolve_ref? hx href]

theorem SameTargets.typeSource_eq (h : SameTargets A document document') (hx : x.RefersIn A)
    (owner property : String) :
    Extraction.typeSource document' owner property x =
      Extraction.typeSource document owner property x := by
  have harray : Extraction.arraySchema document' x = Extraction.arraySchema document x := by
    unfold Extraction.arraySchema
    dsimp only
    split
    · rfl
    · rename_i ref href
      rw [h.resolve_ref? hx href]
  unfold Extraction.typeSource
  rw [harray]

end Targets

namespace Extraction

/-- All schemas that are read under a name give one type, if one of them gives a type. -/
def OneType (R : String → Value → Prop) (name : String) : Prop :=
  ∀ x y t, R name x → R name y → outcome (scalar name x) = .ok t → outcome (scalar name y) = .ok t

/-- Two scopes in which references lead to the same, and to models that are unavailable in both or
in none of them. -/
structure Parallel (A : String → Prop) (R : String → Value → Prop) (scope scope' : Scope) : Prop
    extends Reading scope.document A R where
  targets : SameTargets A scope.document scope'.document
  unavailable : ∀ {r name}, A r → Document.targetName (.text r) = .ok name →
    scope'.unavailable.contains name = scope.unavailable.contains name

/-! ## States -/

/-- None of some names is taken. -/
def State.Free (N : List String) (s : State) : Prop := ∀ n ∈ N, n ∉ s.taken

/-- The same has been found in two states, but the first one has taken some more names. -/
def SameBut (N : List String) (s t : State) : Prop :=
  (∀ n, n ∈ s.taken ↔ n ∈ t.taken ∨ n ∈ N) ∧ s.dataTypes = t.dataTypes ∧ s.models = t.models ∧
    s.pendingTypes = t.pendingTypes ∧ s.pendingModels = t.pendingModels

/-- Two states side by side: the same types are known in both, as far as it matters, some names are
taken in both, and while none of the names `N` is taken in the second one, they differ in nothing
but these. -/
structure Beside (R : String → Value → Prop) (names N : List String) (s t : State) : Prop where
  known : KnownUnder R s
  known' : KnownUnder R t
  sameKnown : ∀ n, OneType R n ∨ s.known.lookup n = t.known.lookup n
  taken : names ⊆ s.taken
  taken' : names ⊆ t.taken
  same : t.Free N → SameBut N s t

section States

variable {R : String → Value → Prop} {names N : List String} {s t : State}

theorem State.Free.mono (h : s.taken ⊆ t.taken) (ht : t.Free N) : s.Free N :=
  fun n hn hs => ht n hn (h hs)

namespace Beside

/-- Two states stay side by side when nothing becomes known in them and no name is taken. -/
theorem update (h : Beside R names N s t) {s' t' : State} (hs : s'.known = s.known)
    (ht : t'.known = t.known) (htaken : s'.taken = s.taken) (htaken' : t'.taken = t.taken)
    (hsame : t.Free N → SameBut N s' t') : Beside R names N s' t' where
  known := fun n d hd => h.known n d (hs ▸ hd)
  known' := fun n d hd => h.known' n d (ht ▸ hd)
  sameKnown := by rw [hs, ht]; exact h.sameKnown
  taken := htaken ▸ h.taken
  taken' := htaken' ▸ h.taken'
  same := fun hfree => hsame fun n hn => htaken' ▸ hfree n hn

theorem noted_left (h : Beside R names N s t) (ws : List Warning) :
    Beside R names N (s.noted ws) t :=
  h.update rfl rfl rfl rfl h.same

theorem noted_right (h : Beside R names N s t) (ws : List Warning) :
    Beside R names N s (t.noted ws) :=
  h.update rfl rfl rfl rfl h.same

theorem noted (h : Beside R names N s t) (ws ws' : List Warning) :
    Beside R names N (s.noted ws) (t.noted ws') :=
  (h.noted_left ws).noted_right ws'

theorem took (h : Beside R names N s t) {n n' : String} (hn : (t.took n').Free N → n = n') :
    Beside R names N (s.took n) (t.took n') where
  known := h.known
  known' := h.known'
  sameKnown := h.sameKnown
  taken := fun _ hm => List.mem_cons_of_mem _ (h.taken hm)
  taken' := fun _ hm => List.mem_cons_of_mem _ (h.taken' hm)
  same := by
    intro hfree
    obtain ⟨htaken, hrest⟩ := h.same (hfree.mono (List.subset_cons_self _ _))
    refine ⟨fun m => ?_, hrest⟩
    simp only [State.took, List.mem_cons, hn hfree, htaken, or_assoc]

theorem pended (h : Beside R names N s t) {d d' : DataType} (hd : t.Free N → d = d') :
    Beside R names N (s.pended d) (t.pended d') := by
  refine h.update rfl rfl rfl rfl fun hfree => ?_
  obtain ⟨htaken, htypes, hmodels, hpending, hinline⟩ := h.same hfree
  refine ⟨htaken, htypes, hmodels, ?_, hinline⟩
  simp only [State.pended, hpending, hd hfree]

theorem pendedModel (h : Beside R names N s t) {m m' : Model} (hm : t.Free N → m = m') :
    Beside R names N (s.pendedModel m) (t.pendedModel m') := by
  refine h.update rfl rfl rfl rfl fun hfree => ?_
  obtain ⟨htaken, htypes, hmodels, hpending, hinline⟩ := h.same hfree
  refine ⟨htaken, htypes, hmodels, hpending, ?_⟩
  simp only [State.pendedModel, hinline, hm hfree]

theorem pendedUnlessEmitted (h : Beside R names N s t) (d : DataType) :
    Beside R names N (if s.isEmitted d.name then s else s.pended d)
      (if t.isEmitted d.name then t else t.pended d) := by
  refine h.update (by split <;> rfl) (by split <;> rfl) (by split <;> rfl) (by split <;> rfl)
    fun hfree => ?_
  have hemitted : s.isEmitted d.name = t.isEmitted d.name := by
    unfold State.isEmitted
    rw [(h.same hfree).2.1]
  rw [hemitted]
  split
  · exact h.same hfree
  · exact (h.pended fun _ => rfl).same hfree

end Beside

/-- The same name comes out for an inline type while none of the names in question is given. -/
theorem Beside.inlineName (h : Beside R names N s t) {hint : String}
    (hfree : (t.took (inlineNameOf t hint)).Free N) :
    inlineNameOf s hint = inlineNameOf t hint := by
  obtain ⟨htaken, -⟩ := h.same (hfree.mono (List.subset_cons_self _ _))
  refine Name.fresh_eq_of_subset (fun n hn => (htaken n).mpr (.inl hn)) fun hmem => ?_
  rcases (htaken _).mp hmem with hmem | hmem
  · exact inlineNameOf_not_mem t hint hmem
  · exact hfree _ hmem List.mem_cons_self

/-- An inline type has a name, since its owner has one, or since the empty name is taken. -/
theorem inlineNameOf_hint_ne_empty {owner : String} (howner : owner = "" → "" ∈ names)
    (hnames : names ⊆ s.taken) (property : String) (x : Value) (isCollection : Bool) :
    inlineNameOf s (hint owner property x isCollection) ≠ "" := by
  by_cases hempty : owner = ""
  · exact fun h => inlineNameOf_not_mem s _ (h ▸ hnames (howner hempty))
  · exact inlineNameOf_ne_empty s (hint_ne_empty hempty property x isCollection)

end States

/-! ## Comparing runs -/

/-- Two outcomes of one sort: results that are related, or failures that come from one unavailable
model or are both of another kind. -/
inductive Ends {α : Type} (Q : α → α → Prop) : Except Failure α → Except Failure α → Prop
  | ok {u v : α} : Q u v → Ends Q (.ok u) (.ok v)
  | error {e e' : Failure} :
      (∀ m, e = .problem (.unavailable m) ↔ e' = .problem (.unavailable m)) →
      Ends Q (.error e) (.error e')

theorem Ends.mono {α : Type} {Q Q' : α → α → Prop} (hQ : ∀ u v, Q u v → Q' u v)
    {o o' : Except Failure α} : Ends Q o o' → Ends Q' o o'
  | .ok huv => .ok (hQ _ _ huv)
  | .error he => .error he

/-- Two runs, the second one from a state `t`, that end alike, and in the same way while none of the
names `N` is taken. -/
structure Agree {α : Type} (R : String → Value → Prop) (names N : List String) (t : State)
    (Q : α → α → Prop) (r r' : Except Failure α × State) : Prop where
  beside : Beside R names N r.2 r'.2
  grown : t.taken ⊆ r'.2.taken
  ends : Ends Q r.1 r'.1
  same : r'.2.Free N → r.1 = r'.1

namespace Agree

variable {α : Type} {R : String → Value → Prop} {names N : List String} {s t t₀ : State}
  {Q : α → α → Prop} {r r' : Except Failure α × State}

theorem ok {u v : α} (h : Beside R names N s t) (hgrown : t₀.taken ⊆ t.taken) (hQ : Q u v)
    (hsame : t.Free N → u = v) : Agree R names N t₀ Q (.ok u, s) (.ok v, t) :=
  ⟨h, hgrown, .ok hQ, fun hfree => congrArg Except.ok (hsame hfree)⟩

theorem error {e e' : Failure} (h : Beside R names N s t) (hgrown : t₀.taken ⊆ t.taken)
    (he : ∀ m, e = .problem (.unavailable m) ↔ e' = .problem (.unavailable m))
    (hsame : t.Free N → e = e') : Agree R names N t₀ Q (.error e, s) (.error e', t) :=
  ⟨h, hgrown, .error he, fun hfree => congrArg Except.error (hsame hfree)⟩

/-- Two runs that stop where they are, with one outcome. -/
theorem of_eq {o : Except Failure α} (h : Beside R names N s t) (hgrown : t₀.taken ⊆ t.taken)
    (hQ : ∀ u, Q u u) : Agree R names N t₀ Q (o, s) (o, t) where
  beside := h
  grown := hgrown
  ends := by
    cases o with
    | error e => exact .error fun _ => .rfl
    | ok u => exact .ok (hQ u)
  same := fun _ => rfl

theorem mono {Q' : α → α → Prop} (h : Agree R names N t Q r r') (hQ : ∀ u v, Q u v → Q' u v) :
    Agree R names N t Q' r r' where
  beside := h.beside
  grown := h.grown
  ends := Ends.mono hQ h.ends
  same := h.same

/-- Cases on two runs that agree: both of them succeed, or both fail. -/
@[elab_as_elim]
theorem elim {motive : Except Failure α × State → Except Failure α × State → Prop}
    (h : Agree R names N t Q r r')
    (ok : ∀ u v s' t', Beside R names N s' t' → t.taken ⊆ t'.taken → Q u v →
      (t'.Free N → u = v) → motive (.ok u, s') (.ok v, t'))
    (error : ∀ e e' s' t', Beside R names N s' t' → t.taken ⊆ t'.taken →
      (∀ m, e = .problem (.unavailable m) ↔ e' = .problem (.unavailable m)) →
      (t'.Free N → e = e') → motive (.error e, s') (.error e', t')) : motive r r' := by
  obtain ⟨o, s'⟩ := r
  obtain ⟨o', t'⟩ := r'
  obtain ⟨hbeside, hgrown, hends, hsame⟩ := h
  cases hends with
  | ok hQ => exact ok _ _ s' t' hbeside hgrown hQ fun hfree => Except.ok.inj (hsame hfree)
  | error he =>
      exact error _ _ s' t' hbeside hgrown he fun hfree => Except.error.inj (hsame hfree)

end Agree

/-! ## Types -/

section Work

variable {A : String → Prop} {R : String → Value → Prop} {names N : List String}
  {scope scope' : Scope} {s t : State}

theorem lookup_learned (s : State) (name n : String) (d : DataType) :
    (s.learned name d).known.lookup n = if n = name then some d else s.known.lookup n := by
  by_cases hn : n = name
  · simp [State.learned, hn]
  · have hne : (n == name) = false := by simpa using hn
    simp [State.learned, List.lookup_cons, hne, hn]

theorem KnownUnder.learned (h : KnownUnder R s) {name : String} {schema : Value} {d : DataType}
    (hread : R name schema) (hd : outcome (scalar name schema) = .ok d) :
    KnownUnder R (s.learned name d) := by
  intro n u hu
  rw [lookup_learned] at hu
  split at hu
  · rename_i hn
    cases hu
    exact ⟨schema, hn ▸ hread, hn ▸ hd⟩
  · exact h n u hu

/-- What is known under a name of one type is what would be worked out. -/
theorem KnownUnder.outcome_eq (h : KnownUnder R s) {name : String} {schema : Value} {d : DataType}
    (hone : OneType R name) (hread : R name schema) (hd : s.known.lookup name = some d) :
    outcome (scalar name schema) = .ok d := by
  obtain ⟨y, hy, ht⟩ := h name d hd
  exact hone y schema d hy hread ht

section Learned

variable {name : String} {schema : Value} {d : DataType}

/-- What becomes known under a name of one type does not matter. -/
theorem OneType.lookup_learned (hone : OneType R name) {n : String} {u : Option DataType}
    (h : OneType R n ∨ s.known.lookup n = u) :
    OneType R n ∨ (s.learned name d).known.lookup n = u := by
  rw [Extraction.lookup_learned]
  by_cases hn : n = name
  · exact .inl (hn ▸ hone)
  · rwa [if_neg hn]

theorem Beside.learned (h : Beside R names N s t) (hread : R name schema)
    (hd : outcome (scalar name schema) = .ok d) :
    Beside R names N (s.learned name d) (t.learned name d) where
  known := h.known.learned hread hd
  known' := h.known'.learned hread hd
  sameKnown := by
    intro n
    rw [lookup_learned, lookup_learned]
    exact (h.sameKnown n).imp_right fun heq => by rw [heq]
  taken := h.taken
  taken' := h.taken'
  same := h.same

theorem Beside.learned_left (h : Beside R names N s t) (hone : OneType R name)
    (hread : R name schema) (hd : outcome (scalar name schema) = .ok d) :
    Beside R names N (s.learned name d) t where
  known := h.known.learned hread hd
  known' := h.known'
  sameKnown := fun n => hone.lookup_learned (h.sameKnown n)
  taken := h.taken
  taken' := h.taken'
  same := h.same

theorem Beside.learned_right (h : Beside R names N s t) (hone : OneType R name)
    (hread : R name schema) (hd : outcome (scalar name schema) = .ok d) :
    Beside R names N s (t.learned name d) where
  known := h.known
  known' := h.known'.learned hread hd
  sameKnown := fun n =>
    (hone.lookup_learned ((h.sameKnown n).imp_right Eq.symm)).imp_right Eq.symm
  taken := h.taken
  taken' := h.taken'
  same := h.same

end Learned

theorem namedType_agree {name : String} {schema : Value} (hread : R name schema)
    (h : Beside R names N s t) :
    Agree R names N t (· = ·) ((namedType name schema).run.run s)
      ((namedType name schema).run.run t) := by
  have hnoted := h.noted (notes (scalar name schema)) (notes (scalar name schema))
  -- a type that is known in one state only is one that the other one finds now
  have hother : ∀ {u v : Option DataType}, s.known.lookup name = u → t.known.lookup name = v →
      u ≠ v → OneType R name := fun hs ht hne =>
    (h.sameKnown name).resolve_right fun heq => hne (hs.symm.trans (heq.trans ht))
  rw [run_namedType, run_namedType]
  cases hs : s.known.lookup name with
  | some u =>
      cases ht : t.known.lookup name with
      | some v =>
          have huv : u = v := by
            by_cases heq : some u = some v
            · exact Option.some.inj heq
            · have hone := hother hs ht heq
              exact Except.ok.inj ((h.known.outcome_eq hone hread hs).symm.trans
                (h.known'.outcome_eq hone hread ht))
          exact .ok h (fun _ hn => hn) huv fun _ => huv
      | none =>
          have hone := hother hs ht (Option.some_ne_none u)
          have hu := h.known.outcome_eq hone hread hs
          rw [hu]
          exact .ok ((h.noted_right _).learned_right hone hread hu) (fun _ hn => hn) rfl
            fun _ => rfl
  | none =>
      cases hd : outcome (scalar name schema) with
      | error e =>
          cases ht : t.known.lookup name with
          | some v =>
              have hv := h.known'.outcome_eq (hother hs ht (Option.some_ne_none v).symm) hread ht
              exact nomatch hv.symm.trans hd
          | none => exact .of_eq hnoted (fun _ hn => hn) fun _ => rfl
      | ok d =>
          cases ht : t.known.lookup name with
          | some v =>
              have hone := hother hs ht (Option.some_ne_none v).symm
              obtain rfl : v = d :=
                Except.ok.inj ((h.known'.outcome_eq hone hread ht).symm.trans hd)
              exact .ok ((h.noted_left _).learned_left hone hread hd) (fun _ hn => hn) rfl
                fun _ => rfl
          | none => exact .ok (hnoted.learned hread hd) (fun _ hn => hn) rfl fun _ => rfl

theorem plainType_agree {name : String} {schema : Value}
    (hread : R name schema) (h : Beside R names N s t) :
    Agree R names N t (· = ·) ((plainType name schema).run.run s)
      ((plainType name schema).run.run t) := by
  rw [run_plainType, run_plainType]
  refine (namedType_agree hread h).elim ?_ ?_
  · rintro u _ s' t' hbeside hgrown rfl -
    refine .of_eq (hbeside.pendedUnlessEmitted u) (fun n hn => ?_) fun _ => rfl
    have hn := hgrown hn
    split <;> exact hn
  · exact fun e e' s' t' hbeside hgrown he hsame => .error hbeside hgrown he hsame

theorem referenceType_agree (hp : Parallel A R scope scope') {x ref : Value} (hx : x.RefersIn A)
    (href : Schema.ref? x = some ref) (h : Beside R names N s t) :
    Agree R names N t (· = ·) ((referenceType scope ref).run.run s)
      ((referenceType scope' ref).run.run t) := by
  rw [run_referenceType, run_referenceType, hp.targets.referent_eq hx href]
  cases hreferent : referent scope.document ref with
  | error e => exact .of_eq h (fun _ hn => hn) fun _ => rfl
  | ok found =>
      obtain ⟨name, target⟩ := found
      have hread : R name target := hp.read_ref? hx href hreferent
      obtain ⟨⟨r, rfl⟩, hname, htarget⟩ := referent_eq_ok hreferent
      have hr : A r := hx.ref? href
      dsimp only
      rw [Schema.isComplex_eq hp.targets (hp.refersIn hr htarget), hp.unavailable hr hname]
      split
      · refine (namedType_agree hread h).elim ?_ ?_
        · rintro u _ s' t' hbeside hgrown rfl -
          exact .of_eq hbeside hgrown fun _ => rfl
        · exact fun e e' s' t' hbeside hgrown he hsame => .error hbeside hgrown he hsame
      · cases Schema.isComplex scope.document target with
        | error e => exact .of_eq h (fun _ hn => hn) fun _ => rfl
        | ok complex =>
            cases complex with
            | true =>
                dsimp only
                split
                · exact .of_eq h (fun _ hn => hn) fun _ => rfl
                · split <;> exact .of_eq h (fun _ hn => hn) fun _ => rfl
            | false =>
                dsimp only
                split
                · exact plainType_agree hread h
                · exact .of_eq h (fun _ hn => hn) fun _ => rfl

/-- Two ways to build inline models that agree, under names that are the same while none of the
names `N` is taken. -/
def BuildsAlike (A : String → Prop) (R : String → Value → Prop) (names N : List String)
    (build build' : Builder) : Prop :=
  ∀ {name name' : String} {x : Value} {s t : State}, x.RefersIn A → (name = "" → "" ∈ names) →
    (name' = "" → "" ∈ names) → (t.Free N → name = name') → Beside R names N s t →
    Agree R names N t (fun _ _ => True) ((build name x).run.run s) ((build' name' x).run.run t)

/-- Results that are both there, or both not. -/
def BothGiven {α : Type} (u v : Option α) : Prop := u.isSome = v.isSome

variable {build build' : Builder}

theorem typeOf_agree (hp : Parallel A R scope scope')
    (hbuild : BuildsAlike A R names N build build') {x : Value} (hx : x.RefersIn A)
    {hint hint' : String} (hname : inlineNameOf s hint ≠ "") (hname' : inlineNameOf t hint' ≠ "")
    (hsame : t.Free N → hint = hint') (h : Beside R names N s t) :
    Agree R names N t BothGiven ((typeOf build scope hint x).run.run s)
      ((typeOf build' scope' hint' x).run.run t) := by
  rw [run_typeOf, run_typeOf]
  cases href : Schema.ref? x with
  | some ref => exact (referenceType_agree hp hx href h).mono fun _ _ huv => huv ▸ rfl
  | none =>
      have hnames : (t.took (inlineNameOf t hint')).Free N →
          inlineNameOf s hint = inlineNameOf t hint' := fun hfree => by
        rw [hsame (hfree.mono (List.subset_cons_self _ _))]
        exact h.inlineName hfree
      have htook := h.took hnames
      have hgrown : t.taken ⊆ (t.took (inlineNameOf t hint')).taken := List.subset_cons_self _ _
      unfold inlineNameOf at hname hname' hnames htook hgrown
      rw [Schema.isComplex_eq hp.targets hx]
      generalize Name.fresh s.taken (Name.pascal hint) = name at hname hnames htook
      generalize Name.fresh t.taken (Name.pascal hint') = name' at hname' hnames htook hgrown
      dsimp only
      split
      · -- an inline scalar, whose name does not decide whether it succeeds
        have hnotes := (htook.noted (notes (scalar name x)) (notes (scalar name' x)))
        cases hu : outcome (scalar name x) with
        | ok u =>
            obtain ⟨v, hv⟩ := scalar_ok hname' hu
            rw [hv]
            have huv : (t.took name').Free N → u = v := fun hfree => by
              rw [hnames hfree] at hu
              exact Except.ok.inj (hu.symm.trans hv)
            exact .ok (hnotes.pended huv) hgrown rfl fun hfree => congrArg some (huv hfree)
        | error e =>
            cases hv : outcome (scalar name' x) with
            | ok v =>
                obtain ⟨u, hu'⟩ := scalar_ok hname hv
                exact nomatch hu'.symm.trans hu
            | error e' =>
                have he := (scalar_notes name x).not_problem
                have he' := (scalar_notes name' x).not_problem
                refine .error hnotes hgrown (fun m => ⟨fun h => ?_, fun h => ?_⟩) fun hfree => ?_
                · exact absurd (h ▸ hu) (he _)
                · exact absurd (h ▸ hv) (he' _)
                · rw [hnames hfree] at hu
                  exact Except.error.inj (hu.symm.trans hv)
      · cases Schema.isComplex scope.document x with
        | error e => exact .of_eq h (fun _ hn => hn) fun _ => rfl
        | ok complex =>
            cases complex with
            | false => exact .of_eq h (fun _ hn => hn) fun _ => rfl
            | true =>
                obtain ⟨u, hu, -⟩ := modelReference_ok hname x
                obtain ⟨v, hv, -⟩ := modelReference_ok hname' x
                dsimp only
                rw [hu, hv]
                refine (hbuild hx (fun h => absurd h hname) (fun h => absurd h hname') hnames
                  htook).elim ?_ ?_
                · intro m m' s' t' hbeside hsub _ hm
                  have hgrown := List.Subset.trans hgrown hsub
                  refine .ok (hbeside.pendedModel hm) hgrown rfl fun hfree => ?_
                  rw [hnames (hfree.mono hsub)] at hu
                  exact congrArg some (Except.ok.inj (hu.symm.trans hv))
                · exact fun e e' s' t' hbeside hsub he hsame =>
                    .error hbeside (List.Subset.trans hgrown hsub) he hsame

theorem propertyType_agree (hp : Parallel A R scope scope')
    (hbuild : BuildsAlike A R names N build build') {owner owner' : String}
    (howner : owner = "" → "" ∈ names) (howner' : owner' = "" → "" ∈ names)
    (hsame : t.Free N → owner = owner') (h : Beside R names N s t) (name : String) {schema : Value}
    (hschema : schema.RefersIn A) :
    Agree R names N t (fun u v => BothGiven u.1 v.1)
      ((propertyType build scope owner name schema).run.run s)
      ((propertyType build' scope' owner' name schema).run.run t) := by
  rw [run_propertyType, run_propertyType, hp.targets.typeSource_eq hschema]
  cases hx : typeSource scope.document owner name schema with
  | error e =>
      cases hx' : typeSource scope.document owner' name schema with
      | error e' =>
          refine .error h (fun _ hn => hn) (fun m => ⟨fun he => ?_, fun he => ?_⟩) fun hfree => ?_
          · exact absurd (he ▸ hx) (typeSource_ne_unavailable _ _ _ _ m)
          · exact absurd (he ▸ hx') (typeSource_ne_unavailable _ _ _ _ m)
          · rw [hsame hfree] at hx
            exact Except.error.inj (hx.symm.trans hx')
      | ok r => exact nomatch (typeSource_owner hx').symm.trans hx
  | ok r =>
      obtain ⟨x, c⟩ := r
      rw [typeSource_owner hx]
      dsimp only
      have htype := typeOf_agree hp hbuild (hp.refersIn_typeSource hschema hx)
        (inlineNameOf_hint_ne_empty howner h.taken name x c)
        (inlineNameOf_hint_ne_empty howner' h.taken' name x c)
        (fun hfree => congrArg (hint · name x c) (hsame hfree)) h
      refine htype.elim ?_ ?_
      · exact fun u v s' t' hbeside hgrown huv hsame =>
          .ok hbeside hgrown huv fun hfree => congrArg (·, c) (hsame hfree)
      · exact fun e e' s' t' hbeside hgrown he hsame => .error hbeside hgrown he hsame

/-! ## Properties and models -/

theorem property_agree (hp : Parallel A R scope scope')
    (hbuild : BuildsAlike A R names N build build') {owner owner' : String}
    (howner : owner = "" → "" ∈ names) (howner' : owner' = "" → "" ∈ names)
    (hsame : t.Free N → owner = owner') (h : Beside R names N s t) (required : List String)
    (name : String) {schema : Value} (hschema : schema.RefersIn A) :
    Agree R names N t BothGiven
      ((property build scope owner required name schema).run.run s)
      ((property build' scope' owner' required name schema).run.run t) := by
  by_cases hmap : schema.isMap = true
  · have htype := propertyType_agree hp hbuild howner howner' hsame h name hschema
    rcases hrun : (propertyType build scope owner name schema).run.run s with ⟨e | ⟨u, c⟩, s'⟩ <;>
      rcases hrun' : (propertyType build' scope' owner' name schema).run.run t
        with ⟨e' | ⟨v, c'⟩, t'⟩ <;> rw [hrun, hrun'] at htype
    · obtain ⟨hbeside, hgrown, hends, heq⟩ := htype
      cases hends with
      | error he =>
          by_cases hm : ∃ m, e = .problem (.unavailable m)
          · obtain ⟨m, rfl⟩ := hm
            obtain rfl := (he m).mp rfl
            rw [run_property, run_property, if_pos hmap, if_pos hmap, hrun, hrun']
            exact .ok (hbeside.noted _ _) hgrown rfl fun _ => rfl
          · have hm := not_exists.mp hm
            rw [run_property_error scope required hmap hrun hm,
              run_property_error scope' required hmap hrun' fun m h => hm m ((he m).mpr h)]
            exact .error hbeside hgrown he fun hfree => Except.error.inj (heq hfree)
    · exact nomatch htype.ends
    · exact nomatch htype.ends
    · obtain ⟨hbeside, hgrown, hends, heq⟩ := htype
      rw [run_property, run_property, if_pos hmap, if_pos hmap, hrun, hrun']
      cases hends with
      | ok huv =>
          have hfields : t'.Free N → u = v ∧ c = c' := fun hfree =>
            Prod.mk.inj (Except.ok.inj (heq hfree))
          cases u with
          | none =>
              cases v with
              | none => exact .ok (hbeside.noted _ _) hgrown rfl fun _ => rfl
              | some v => exact nomatch huv
          | some u =>
              cases v with
              | none => exact nomatch huv
              | some v =>
                  refine .ok hbeside hgrown rfl fun hfree => ?_
                  obtain ⟨hu, rfl⟩ := hfields hfree
                  rw [Option.some.inj hu]
  · rw [run_property, run_property, if_neg hmap, if_neg hmap]
    exact .ok (h.noted _ _) (fun _ hn => hn) rfl fun _ => rfl

theorem properties_agree (hp : Parallel A R scope scope')
    (hbuild : BuildsAlike A R names N build build') {owner owner' : String}
    (howner : owner = "" → "" ∈ names) (howner' : owner' = "" → "" ∈ names)
    (required : List String) :
    ∀ {ps : List (String × Value)} {s t : State}, (∀ p ∈ ps, p.2.RefersIn A) →
      (t.Free N → owner = owner') → Beside R names N s t →
      Agree R names N t (fun u v => u.isEmpty = v.isEmpty)
        ((properties build scope owner required ps).run.run s)
        ((properties build' scope' owner' required ps).run.run t)
  | [], s, t, _, _, h => .ok h (fun _ hn => hn) rfl fun _ => rfl
  | (name, schema) :: rest, s, t, hps, hsame, h => by
      rw [run_properties_cons, run_properties_cons]
      refine (property_agree hp hbuild howner howner' hsame h required name
        (hps _ List.mem_cons_self)).elim ?_ ?_
      · intro u v s' t' hbeside hgrown huv hfirst
        dsimp only
        refine (properties_agree hp hbuild howner howner' required
          (fun p hp => hps p (List.mem_cons_of_mem _ hp))
          (fun hfree => hsame (hfree.mono hgrown)) hbeside).elim ?_ ?_
        · intro us vs s'' t'' hbeside hrest huvs hfields
          refine .ok hbeside (List.Subset.trans hgrown hrest) ?_ fun hfree => ?_
          · cases u with
            | none =>
                cases v with
                | none => exact huvs
                | some v => exact nomatch huv
            | some u =>
                cases v with
                | none => exact nomatch huv
                | some v => rfl
          · rw [hfirst (hfree.mono hrest), hfields hfree]
        · exact fun e e' s'' t'' hbeside hrest he hsame =>
            .error hbeside (List.Subset.trans hgrown hrest) he hsame
      · exact fun e e' s' t' hbeside hgrown he hsame => .error hbeside hgrown he hsame

/-- The models of a schema agree. -/
theorem modelWithin_agree (hp : Parallel A R scope scope') (depth : Nat) :
    BuildsAlike A R names N (modelWithin scope depth) (modelWithin scope' depth) := by
  induction depth with
  | zero => exact fun _ _ _ _ h => .of_eq h (fun _ hn => hn) fun _ => trivial
  | succ depth ih =>
      intro name name' x s t hx hname hname' hsame h
      rw [modelWithin_succ, modelWithin_succ, run_modelWith, run_modelWith,
        Shape.ofSchema_eq hp.targets hx]
      cases hshape : Shape.ofSchema scope.document x with
      | error e => exact .of_eq h (fun _ hn => hn) fun _ => trivial
      | ok shape =>
          dsimp only
          refine (properties_agree hp ih hname hname' shape.required
            (Shape.refersIn_properties hp.refersIn hx hshape) hsame h).elim ?_ ?_
          · intro us vs s' t' hbeside hgrown huvs hfields
            dsimp only
            rw [huvs]
            split
            · refine .error hbeside hgrown (fun m => ⟨fun h => ?_, fun h => ?_⟩) fun hfree => ?_
              · exact nomatch h
              · exact nomatch h
              · rw [hsame (hfree.mono hgrown)]
            · refine .ok hbeside hgrown trivial fun hfree => ?_
              rw [hsame (hfree.mono hgrown), hfields hfree]
          · exact fun e e' s' t' hbeside hgrown he hsame => .error hbeside hgrown he hsame

/-! ## Steps -/

/-- The same models have failed in two states, one name apart. -/
def FailedAlike (S : String) (s t : State) : Prop := ∀ n, n ≠ S → (n ∈ s.failed ↔ n ∈ t.failed)

theorem FailedAlike.congr {S : String} {s' t' : State} (h : FailedAlike S s t)
    (hs : s'.failed = s.failed) (ht : t'.failed = t.failed) : FailedAlike S s' t' := by
  unfold FailedAlike
  rwa [hs, ht]

theorem FailedAlike.began {S : String} (h : FailedAlike S s t) (name : String) :
    FailedAlike S (s.began name) (t.began name) := fun n hn => by
  rw [mem_began, mem_began, h n hn]

theorem Beside.emit (h : Beside R names N s t) (d : DataType) :
    Beside R names N (s.emit d) (t.emit d) := by
  rw [State.emit_eq, State.emit_eq]
  refine h.update rfl rfl rfl rfl fun hfree => ?_
  obtain ⟨htaken, htypes, hrest⟩ := h.same hfree
  exact ⟨htaken, congrArg (emitAll · [d]) htypes, hrest⟩

theorem Beside.finished (h : Beside R names N s t) (name : String) {m m' : Model}
    (hm : t.Free N → m = m') : Beside R names N (s.finished name m) (t.finished name m') := by
  refine h.update rfl rfl rfl rfl fun hfree => ?_
  obtain ⟨htaken, htypes, hmodels, hpending, hinline⟩ := h.same hfree
  refine ⟨htaken, ?_, ?_, rfl, rfl⟩
  · simp only [State.finished, htypes, hpending]
  · simp only [State.finished, hmodels, hinline, hm hfree]

theorem Beside.dropped (h : Beside R names N s t) (name : String) (why why' : Failure) :
    Beside R names N (s.dropped name why) (t.dropped name why') := by
  refine h.update rfl rfl rfl rfl fun hfree => ?_
  obtain ⟨htaken, htypes, hmodels, -⟩ := h.same hfree
  exact ⟨htaken, htypes, hmodels, rfl, rfl⟩

/-- A step keeps two states side by side, and makes the same models fail in both of them. -/
theorem step_beside (hp : Parallel A R scope scope') {S name : String} {x : Value}
    (hname : name ∈ names) (hread : R name x) (hx : x.RefersIn A) (h : Beside R names N s t)
    (hfailed : FailedAlike S s t) :
    Beside R names N (step scope s name x) (step scope' t name x) ∧
      FailedAlike S (step scope s name x) (step scope' t name x) := by
  rw [step_eq, step_eq, run_namedSchema, run_namedSchema, Schema.isComplex_eq hp.targets hx]
  by_cases hmap : x.isMap = true
  · simp only [hmap, Bool.not_true, Bool.false_eq_true, if_false]
    by_cases hsimple : Schema.isSimple x = true
    · rw [if_pos hsimple, if_pos hsimple]
      have hs := namedType_failed s name x
      have ht := namedType_failed t name x
      revert hs ht
      refine (namedType_agree hread h).elim ?_ ?_
      · rintro u _ s' t' hbeside - rfl - hs ht
        refine ⟨hbeside.emit u, ?_⟩
        dsimp only
        rw [State.emit_eq, State.emit_eq]
        exact hfailed.congr hs ht
      · exact fun e e' s' t' hbeside _ _ _ hs ht =>
          ⟨hbeside.dropped name e e', hfailed.congr hs ht⟩
    · rw [if_neg hsimple, if_neg hsimple]
      cases Schema.isComplex scope.document x with
      | error e => exact ⟨h.dropped name e e, hfailed⟩
      | ok complex =>
          cases complex with
          | false => exact ⟨h.noted _ _, hfailed⟩
          | true =>
              have hbegan : Beside R names N (s.began name) (t.began name) :=
                h.update rfl rfl rfl rfl h.same
              have hempty : name = "" → "" ∈ names := fun h => h ▸ hname
              have hmodel : Agree R names N (t.began name) (fun _ _ => True)
                  ((model scope name x).run.run (s.began name))
                  ((model scope' name x).run.run (t.began name)) :=
                modelWithin_agree hp maxNesting hx hempty hempty (fun _ => rfl) hbegan
              have hs := model_failed scope (s.began name) name x
              have ht := model_failed scope' (t.began name) name x
              dsimp only
              revert hmodel hs ht
              generalize (model scope name x).run.run (s.began name) = r
              generalize (model scope' name x).run.run (t.began name) = r'
              intro hmodel
              refine hmodel.elim ?_ ?_
              · intro m m' s' t' hbeside _ _ hm hs ht
                have halike := (hfailed.began name).congr hs ht
                refine ⟨hbeside.finished name hm, fun n hn => ?_⟩
                simp only [State.finished, List.mem_filter, halike n hn]
              · exact fun e e' s' t' hbeside _ _ _ hs ht =>
                  ⟨hbeside.dropped name e e', (hfailed.began name).congr hs ht⟩
  · simp only [hmap, Bool.not_false, if_true]
    exact ⟨h.noted _ _, hfailed⟩

theorem steps_beside (hp : Parallel A R scope scope') {S : String} :
    ∀ {es : List (String × Value)} {s t : State},
      (∀ e ∈ es, e.1 ∈ names ∧ R e.1 e.2 ∧ e.2.RefersIn A) → Beside R names N s t →
      FailedAlike S s t → Beside R names N (steps scope s es) (steps scope' t es) ∧
        FailedAlike S (steps scope s es) (steps scope' t es)
  | [], _, _, _, h, hfailed => ⟨h, hfailed⟩
  | e :: es, s, t, hes, h, hfailed => by
      obtain ⟨hname, hread, he⟩ := hes e List.mem_cons_self
      obtain ⟨hbeside, halike⟩ := step_beside hp hname hread he h hfailed
      have hrest : ∀ d ∈ es, d.1 ∈ names ∧ R d.1 d.2 ∧ d.2.RefersIn A := fun d hd =>
        hes d (List.mem_cons_of_mem _ hd)
      rw [steps_cons, steps_cons]
      exact steps_beside hp hrest hbeside halike

end Work

end Extraction

end Typewright
