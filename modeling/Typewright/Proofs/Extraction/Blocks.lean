/-
# The order of the result

The result is laid out in blocks, one for each component schema and in document order.  A simple
schema gives a block with its own type.  A model that succeeds gives a block with the types that its
properties bring along, in the order in which the properties are gone through (`Brings`), and with
its inline models, each after the parts that it has itself, before its own model.  Every other
schema gives an empty block (`Laid`).

Only the types of inline scalars and of plain scalars are brought along.  The former have names that
nothing else has, so it is the plain ones that can have been brought before, and these alone are
left out (`newTypes`).  A simple schema is never brought along, which is why it stays where it is.
-/
import Typewright.Proofs.Extraction.Closed

namespace Typewright.Extraction

/-! ## Types without repetitions -/

/-- The types whose names have not been seen, each name once. -/
def newTypes (seen : List String) : List DataType → List DataType
  | [] => []
  | t :: ts => if t.name ∈ seen then newTypes seen ts else t :: newTypes (t.name :: seen) ts

section NewTypes

variable {seen seen' : List String} {ts : List DataType} {t : DataType}

theorem newTypes_sublist (seen : List String) (ts : List DataType) :
    (newTypes seen ts).Sublist ts := by
  induction ts generalizing seen with
  | nil => exact .slnil
  | cons t ts ih =>
      rw [newTypes]
      split
      · exact (ih seen).cons t
      · exact (ih _).cons_cons t

theorem name_mem_newTypes (seen : List String) (ht : t ∈ ts) :
    t.name ∈ seen ∨ t.name ∈ (newTypes seen ts).map (·.name) := by
  induction ts generalizing seen with
  | nil => exact absurd ht List.not_mem_nil
  | cons u ts ih =>
      rw [newTypes]
      split
      · rename_i hu
        rcases List.mem_cons.mp ht with rfl | ht
        · exact .inl hu
        · exact ih seen ht
      · rcases List.mem_cons.mp ht with rfl | ht
        · exact .inr List.mem_cons_self
        · rcases ih (u.name :: seen) ht with h | h
          · rcases List.mem_cons.mp h with h | h
            · exact .inr (List.mem_map.mpr ⟨u, List.mem_cons_self, h.symm⟩)
            · exact .inl h
          · exact .inr (List.mem_cons_of_mem _ h)

/-- What has been seen matters for the names of the types only. -/
theorem newTypes_congr (h : ∀ t ∈ ts, t.name ∈ seen ↔ t.name ∈ seen') :
    newTypes seen ts = newTypes seen' ts := by
  induction ts generalizing seen seen' with
  | nil => rfl
  | cons t ts ih =>
      have hrest : ∀ u ∈ ts, u.name ∈ seen ↔ u.name ∈ seen' :=
        fun u hu => h u (List.mem_cons_of_mem t hu)
      have hseen : ∀ u ∈ ts, u.name ∈ t.name :: seen ↔ u.name ∈ t.name :: seen' := by
        intro u hu
        simp only [List.mem_cons, hrest u hu]
      simp only [newTypes, h t List.mem_cons_self, ih hrest, ih hseen]

/-- Types that have been seen can be left out beforehand. -/
theorem newTypes_filter {p : DataType → Bool} (h : ∀ t ∈ ts, p t = false → t.name ∈ seen) :
    newTypes seen (ts.filter p) = newTypes seen ts := by
  induction ts generalizing seen with
  | nil => rfl
  | cons t ts ih =>
      have hrest : ∀ u ∈ ts, p u = false → u.name ∈ seen :=
        fun u hu => h u (List.mem_cons_of_mem t hu)
      cases hp : p t with
      | false =>
          rw [List.filter_cons_of_neg (by simp [hp]), newTypes,
            if_pos (h t List.mem_cons_self hp), ih hrest]
      | true =>
          rw [List.filter_cons_of_pos hp, newTypes, newTypes, ih hrest,
            ih fun u hu hpu => List.mem_cons_of_mem _ (hrest u hu hpu)]

/-- Emitting adds the types of new names at the end. -/
theorem emitAll_eq (emitted ts : List DataType) :
    emitAll emitted ts = emitted ++ newTypes (emitted.map (·.name)) ts := by
  induction ts generalizing emitted with
  | nil => exact (List.append_nil emitted).symm
  | cons t ts ih =>
      show emitAll (emitOne emitted t) ts = _
      have hany : (emitted.any (·.name == t.name)) = true ↔ t.name ∈ emitted.map (·.name) := by
        simp only [List.any_eq_true, beq_iff_eq, List.mem_map]
      rw [ih, emitOne, newTypes]
      split
      · rename_i h
        rw [if_pos (hany.mp h)]
      · rename_i h
        rw [if_neg fun hmem => h (hany.mpr hmem), List.append_assoc, List.map_append]
        refine congrArg (emitted ++ t :: ·) (newTypes_congr fun u _ => ?_)
        simp [or_comm]

end NewTypes

/-! ## What the properties of a model bring along -/

/-- The types and the inline models that the properties of an owner bring along, in the order in
which the properties are gone through, given the fields that they became.  Inline types and models
have names that are not among some others. -/
inductive Brings (document : Value) (schemas : List (String × Value)) (names : List String) :
    String → List (String × Value) → List Field → List DataType → List Model → Prop
  | nil {owner : String} : Brings document schemas names owner [] [] [] []
  /-- The property was left out. -/
  | skip {owner : String} {p : String × Value} {ps : List (String × Value)} {fields : List Field}
      {ts : List DataType} {ms : List Model} :
      Brings document schemas names owner ps fields ts ms →
      Brings document schemas names owner (p :: ps) fields ts ms
  /-- A reference to a simple schema or to a model brings nothing along. -/
  | named {owner name n : String} {schema x ref target : Value} {isCollection : Bool} {f : Field}
      {ps : List (String × Value)} {fields : List Field} {ts : List DataType} {ms : List Model} :
      typeSource document owner name schema = .ok (x, isCollection) → Schema.ref? x = some ref →
      referent document ref = .ok (n, target) → (n, target) ∈ schemas →
      Schema.isSimple target = true ∨ Schema.isComplex document target = .ok true →
      f.name = name → f.dataType.name = n →
      Brings document schemas names owner ps fields ts ms →
      Brings document schemas names owner ((name, schema) :: ps) (f :: fields) ts ms
  | plain {owner name n : String} {schema x ref target : Value} {isCollection : Bool} {f : Field}
      {ps : List (String × Value)} {fields : List Field} {ts : List DataType} {ms : List Model} :
      typeSource document owner name schema = .ok (x, isCollection) → Schema.ref? x = some ref →
      referent document ref = .ok (n, target) → (n, target) ∈ schemas →
      Schema.isSimple target = false → Schema.isPlain target = true →
      f.name = name → outcome (scalar n target) = .ok f.dataType →
      Brings document schemas names owner ps fields ts ms →
      Brings document schemas names owner ((name, schema) :: ps) (f :: fields)
        (f.dataType :: ts) ms
  | scalar {owner name : String} {schema x : Value} {isCollection : Bool} {f : Field}
      {ps : List (String × Value)} {fields : List Field} {ts : List DataType} {ms : List Model} :
      typeSource document owner name schema = .ok (x, isCollection) → Schema.ref? x = none →
      Schema.isScalar x = true → f.dataType.name ∉ names →
      f.name = name → outcome (scalar f.dataType.name x) = .ok f.dataType →
      Brings document schemas names owner ps fields ts ms →
      Brings document schemas names owner ((name, schema) :: ps) (f :: fields)
        (f.dataType :: ts) ms
  | inline {owner name inner : String} {schema x : Value} {isCollection : Bool} {f : Field}
      {shape : Shape} {ps : List (String × Value)} {innerFields fields : List Field}
      {ts ts' : List DataType} {ms ms' : List Model} :
      typeSource document owner name schema = .ok (x, isCollection) → Schema.ref? x = none →
      Schema.isScalar x = false → Schema.isComplex document x = .ok true → inner ∉ names →
      Shape.ofSchema document x = .ok shape →
      Brings document schemas names inner shape.properties innerFields ts ms →
      f.name = name → f.dataType.name = inner → f.dataType.kind = .object →
      Brings document schemas names owner ps fields ts' ms' →
      Brings document schemas names owner ((name, schema) :: ps) (f :: fields) (ts ++ ts')
        (ms ++ modelOf inner x innerFields :: ms')

/-- The model of each field that has an inline model stands before the model of the field. -/
def PartsFirst (names : List String) (models : List Model) : Prop :=
  ∀ before m after, models = before ++ m :: after → ∀ f ∈ m.fields,
    f.dataType.kind = .object → f.dataType.name ∉ names → f.dataType.name ∈ before.map (·.name)

section Brings

variable {document : Value} {schemas : List (String × Value)} {names names' : List String}
  {owner : String} {ps : List (String × Value)} {fields : List Field} {ts : List DataType}
  {ms ms' : List Model}

theorem Brings.mono (hsub : names' ⊆ names)
    (h : Brings document schemas names owner ps fields ts ms) :
    Brings document schemas names' owner ps fields ts ms := by
  induction h with
  | nil => exact .nil
  | skip _ ih => exact .skip ih
  | named hx href hreferent hin htarget hf ht _ ih =>
      exact .named hx href hreferent hin htarget hf ht ih
  | plain hx href hreferent hin hsimple hplain hf ht _ ih =>
      exact .plain hx href hreferent hin hsimple hplain hf ht ih
  | scalar hx href hscalar hname hf ht _ ih =>
      exact .scalar hx href hscalar (fun h => hname (hsub h)) hf ht ih
  | inline hx href hscalar hcomplex hname hshape _ hf ht hkind _ ihinner ih =>
      exact .inline hx href hscalar hcomplex (fun h => hname (hsub h)) hshape ihinner hf ht hkind ih

/-- A type that is brought along has a name of its own, or is that of a plain component schema. -/
theorem Brings.types (h : Brings document schemas names owner ps fields ts ms) :
    ∀ t ∈ ts, t.name ∉ names ∨ ∃ schema, (t.name, schema) ∈ schemas ∧
      Schema.isSimple schema = false ∧ Schema.isPlain schema = true := by
  induction h with
  | nil => exact fun _ ht => absurd ht List.not_mem_nil
  | skip _ ih => exact ih
  | named _ _ _ _ _ _ _ _ ih => exact ih
  | plain _ _ _ hin hsimple hplain _ ht _ ih =>
      refine List.forall_mem_cons.mpr ⟨.inr ⟨_, ?_, hsimple, hplain⟩, ih⟩
      rwa [(scalar_name ht).1]
  | scalar _ _ _ hname _ _ _ ih => exact List.forall_mem_cons.mpr ⟨.inl hname, ih⟩
  | inline _ _ _ _ _ _ _ _ _ _ _ ihinner ih =>
      exact fun t ht => (List.mem_append.mp ht).elim (ihinner t) (ih t)

theorem PartsFirst.nil : PartsFirst names [] :=
  fun before _ _ h => absurd h.symm (by simp)

theorem PartsFirst.append (h : PartsFirst names ms) (h' : PartsFirst names ms') :
    PartsFirst names (ms ++ ms') := by
  intro before m after hsplit f hf hkind hname
  rcases List.append_eq_append_iff.mp hsplit with ⟨ys, rfl, hms'⟩ | ⟨ys, rfl, hms'⟩
  · rw [List.map_append]
    exact List.mem_append_right _ (h' ys m after hms' f hf hkind hname)
  · cases ys with
    | nil =>
        have hin := h' [] m after hms'.symm f hf hkind hname
        exact absurd hin List.not_mem_nil
    | cons y ys =>
        obtain ⟨rfl, -⟩ := List.cons.inj hms'
        exact h before m ys rfl f hf hkind hname

/-- A model after all of its parts. -/
theorem PartsFirst.concat (h : PartsFirst names ms) {m : Model}
    (hparts : ∀ f ∈ m.fields, f.dataType.kind = .object → f.dataType.name ∉ names →
      f.dataType.name ∈ ms.map (·.name)) : PartsFirst names (ms ++ [m]) := by
  intro before m' after hsplit f hf hkind hname
  rcases List.append_eq_append_iff.mp hsplit with ⟨ys, rfl, hm⟩ | ⟨ys, rfl, hm⟩
  · cases ys with
    | nil =>
        obtain ⟨rfl, -⟩ := List.cons.inj hm
        rw [List.append_nil]
        exact hparts f hf hkind hname
    | cons y ys => simp at hm
  · cases ys with
    | nil =>
        obtain ⟨rfl, -⟩ := List.cons.inj hm
        simpa using hparts f hf hkind hname
    | cons y ys =>
        obtain ⟨rfl, -⟩ := List.cons.inj hm
        exact h before m' ys rfl f hf hkind hname

/-- The inline models that are brought along follow their parts, and each field with an inline model
has its model among them. -/
theorem Brings.partsFirst (h : Brings document schemas names owner ps fields ts ms)
    (hnames : ∀ c ∈ schemas, c.1 ∈ names) :
    PartsFirst names ms ∧ ∀ f ∈ fields, f.dataType.kind = .object → f.dataType.name ∉ names →
      f.dataType.name ∈ ms.map (·.name) := by
  induction h with
  | nil => exact ⟨.nil, fun _ hf => absurd hf List.not_mem_nil⟩
  | skip _ ih => exact ih
  | named _ _ _ hin _ _ ht _ ih =>
      refine ⟨ih.1, List.forall_mem_cons.mpr ⟨fun _ hname => ?_, ih.2⟩⟩
      exact absurd (hnames _ hin) (ht ▸ hname)
  | plain _ _ _ hin _ _ _ ht _ ih =>
      refine ⟨ih.1, List.forall_mem_cons.mpr ⟨fun _ hname => ?_, ih.2⟩⟩
      exact absurd (hnames _ hin) ((scalar_name ht).1 ▸ hname)
  | scalar _ _ hscalar _ _ ht _ ih =>
      refine ⟨ih.1, List.forall_mem_cons.mpr ⟨fun hkind _ => ?_, ih.2⟩⟩
      exact absurd ((scalar_name ht).2 ▸ hkind) (Schema.kind_ne_object hscalar)
  | @inline _ _ inner _ x _ f _ _ innerFields _ _ _ ms ms' _ _ _ _ _ _ _ _ ht _ _ ihinner ih =>
      have hmodel : PartsFirst names (ms ++ [modelOf inner x innerFields]) :=
        ihinner.1.concat ihinner.2
      rw [List.append_cons]
      refine ⟨hmodel.append ih.1,
        List.forall_mem_cons.mpr ⟨fun _ _ => ?_, fun g hg hkind hname => ?_⟩⟩
      · simp [ht, modelOf]
      · rw [List.map_append]
        exact List.mem_append_right _ (ih.2 g hg hkind hname)

end Brings

/-! ## From derivations -/

section Derivations

variable {scope : Scope} {schemas : List (String × Value)} {A : String → Prop}
  {names : List String} {s s' : State}

/-- The types that a step of a derivation adds to those that are pending: the ones that have not
been emitted. -/
def Pends (s s' : State) (ts : List DataType) : Prop :=
  s'.pendingTypes = s.pendingTypes ++ ts.filter fun t => !s.isEmitted t.name

theorem Pends.none (h : s'.pendingTypes = s.pendingTypes) : Pends s s' [] := by
  rw [Pends, h, List.filter_nil, List.append_nil]

theorem Pends.trans {s₁ : State} {ts ts' : List DataType} (h : Pends s s₁ ts)
    (hsame : s₁.dataTypes = s.dataTypes) (h' : Pends s₁ s' ts') : Pends s s' (ts ++ ts') := by
  have hemitted : s₁.isEmitted = s.isEmitted := by
    funext n
    rw [State.isEmitted, State.isEmitted, hsame]
  rw [Pends, h', h, hemitted, List.filter_append, List.append_assoc]

/-- The type of a reference or of an inline scalar, if it is brought along. -/
theorem Found.brings (hset : Setting scope.document schemas A (Component schemas))
    {owner name : String} {schema x : Value} {isCollection : Bool} {t : DataType}
    (hx : typeSource scope.document owner name schema = .ok (x, isCollection))
    (hrefs : x.RefersIn A) (hknown : KnownUnder (Component schemas) s)
    (hnames : names ⊆ s.taken) (hemitted : ∀ u ∈ s.dataTypes, u.name ∈ s.taken) {hint : String}
    (h : Found scope hint s x t s') :
    ∃ ts, Pends s s' ts ∧ ∀ {f : Field} {ps : List (String × Value)} {fields : List Field}
      {ts' : List DataType} {ms : List Model}, f.name = name → f.dataType = t →
        Brings scope.document schemas names owner ps fields ts' ms →
        Brings scope.document schemas names owner ((name, schema) :: ps) (f :: fields)
          (ts ++ ts') ms := by
  cases h with
  | @simple ref target n _ _ href hreferent hsimple hrun =>
      have hin : (n, target) ∈ schemas := hset.read_ref? hrefs href hreferent
      have hgrows : Grows scope (Component schemas) "" s _ :=
        namedType_grows hin (Schema.isScalar_of_isSimple hsimple) s
      rw [hrun] at hgrows
      obtain ⟨hlookup, hs'⟩ := namedType_ok hrun
      refine ⟨[], .none (by rcases hs' with rfl | rfl <;> rfl), fun hf ht hrest => ?_⟩
      refine .named hx href hreferent hin (.inl hsimple) hf ?_ hrest
      rw [ht, (hknown.grows hgrows).name hlookup]
  | @model ref target n _ href hreferent _ hcomplex _ ht =>
      have hin : (n, target) ∈ schemas := hset.read_ref? hrefs href hreferent
      refine ⟨[], .none rfl, fun hf ht' hrest => ?_⟩
      refine .named hx href hreferent hin (.inr hcomplex) hf ?_ hrest
      rw [ht', (modelReference_eq ht).1]
  | @plain ref target n _ _ href hreferent hsimple _ hplain hrun =>
      have hin : (n, target) ∈ schemas := hset.read_ref? hrefs href hreferent
      obtain ⟨s₁, hnamed, rfl⟩ := plainType_ok hrun
      have hgrows : Grows scope (Component schemas) "" s _ :=
        namedType_grows hin (Schema.isScalar_of_isPlain hplain) s
      rw [hnamed] at hgrows
      obtain ⟨hlookup, hs₁⟩ := namedType_ok hnamed
      have ht := (hknown.grows hgrows).outcome_of_known hset.nodup hlookup hin
      refine ⟨[t], ?_, fun hf ht' hrest => ?_⟩
      · have hpending : s₁.pendingTypes = s.pendingTypes := by rcases hs₁ with rfl | rfl <;> rfl
        have hsame : s₁.isEmitted t.name = s.isEmitted t.name := by
          rw [State.isEmitted, State.isEmitted, hgrows.dataTypes]
        rw [Pends, hsame]
        split
        · rename_i hin
          rw [List.filter_cons_of_neg (by simp [hin]), List.filter_nil, List.append_nil, hpending]
        · rename_i hout
          rw [List.filter_cons_of_pos (by simp [hout]), List.filter_nil, State.pended, hpending]
      · subst ht'
        exact .plain hx href hreferent hin hsimple hplain hf ht hrest
  | @inlineScalar n _ href hscalar hn ht =>
      have hname := (scalar_name ht).1
      have hfree : t.name ∉ s.taken := by
        rw [hname, hn]
        exact inlineNameOf_not_mem s hint
      refine ⟨[t], ?_, fun hf ht' hrest => ?_⟩
      · have hout : s.isEmitted t.name = false := by
          refine Bool.eq_false_iff.mpr fun hin => ?_
          obtain ⟨u, hu, hun⟩ := List.any_eq_true.mp hin
          exact hfree (beq_iff_eq.mp hun ▸ hemitted u hu)
        rw [Pends, List.filter_cons_of_pos (by simp [hout]), List.filter_nil]
        rfl
      · subst ht'
        exact .scalar hx href hscalar (fun h => hfree (hnames h)) hf (hname ▸ ht) hrest

variable {owner : String} {required : List String} {ps : List (String × Value)}
  {fields : List Field}

/-- What is pending after a derivation is what was pending before and what the properties bring
along. -/
theorem Fields.brings (hset : Setting scope.document schemas A (Component schemas))
    (h : Fields scope owner required s ps fields s') :
    (∀ p ∈ ps, p.2.RefersIn A) → KnownUnder (Component schemas) s → names ⊆ s.taken →
      (∀ u ∈ s.dataTypes, u.name ∈ s.taken) →
      ∃ ts ms, Brings scope.document schemas names owner ps fields ts ms ∧ Pends s s' ts ∧
        s'.pendingModels = s.pendingModels ++ ms := by
  induction h with
  | nil => exact fun _ _ _ _ => ⟨[], [], .nil, .none rfl, (List.append_nil _).symm⟩
  | skip _ _ _ ih =>
      intro hps hknown hnames hemitted
      obtain ⟨ts, ms, hbrings, hpends, hmodels⟩ :=
        ih (fun p hp => hps p (List.mem_cons_of_mem _ hp)) hknown hnames hemitted
      exact ⟨ts, ms, .skip hbrings, hpends, hmodels⟩
  | @found owner _ s s₁ _ _ _ _ _ _ _ _ hx hfound _ ih =>
      intro hps hknown hnames hemitted
      have hrefs := hset.refersIn_typeSource (hps _ List.mem_cons_self) hx
      have hgrows : Grows scope (Component schemas) owner s s₁ :=
        hfound.grows hset.toReading owner hrefs
      obtain ⟨ts, hpends, hadd⟩ := hfound.brings hset hx hrefs hknown hnames hemitted
      obtain ⟨ts', ms, hbrings, hpends', hmodels⟩ :=
        ih (fun p hp => hps p (List.mem_cons_of_mem _ hp)) (hknown.grows hgrows)
          (fun _ hn => hgrows.taken (hnames hn))
          (fun u hu => hgrows.taken (hemitted u (hgrows.dataTypes ▸ hu)))
      exact ⟨ts ++ ts', ms, hadd rfl rfl hbrings, hpends.trans hgrows.dataTypes hpends',
        by rw [hmodels, hfound.pendingModels]⟩
  | @inline owner _ s s₁ s' _ inner _ x _ _ innerFields _ _ _ hx href hscalar hcomplex hinner hshape
      hfields _ ht hrest ihinner ihrest =>
      intro hps hknown hnames hemitted
      have hx' := hset.refersIn_typeSource (hps _ List.mem_cons_self) hx
      have hrefs := Shape.refersIn_properties hset.refersIn hx' hshape
      have hgrows : Grows scope (Component schemas) inner (s.took inner) s₁ :=
        hfields.grows hset.toReading hrefs
      have hknown' : KnownUnder (Component schemas) (s.took inner) := hknown
      have hknown₁ : KnownUnder (Component schemas) s₁ := hknown'.grows hgrows
      have htaken : ∀ n ∈ s.taken, n ∈ s₁.taken :=
        fun n hn => hgrows.taken (List.mem_cons_of_mem _ hn)
      have hsame : s₁.dataTypes = s.dataTypes := hgrows.dataTypes
      obtain ⟨ts, ms, hbrings, hpends, hmodels⟩ := ihinner hrefs hknown'
        (fun _ hn => List.mem_cons_of_mem _ (hnames hn))
        (fun u hu => List.mem_cons_of_mem _ (hemitted u hu))
      obtain ⟨ts', ms', hbrings', hpends', hmodels'⟩ :=
        ihrest (fun p hp => hps p (List.mem_cons_of_mem _ hp)) hknown₁
          (fun n hn => htaken n (hnames hn)) (fun u hu => htaken _ (hemitted u (hsame ▸ hu)))
      have hfree : inner ∉ names := fun hn => inlineNameOf_not_mem s _ (hinner ▸ hnames hn)
      obtain ⟨hname, hkind⟩ := modelReference_eq ht
      refine ⟨ts ++ ts', ms ++ modelOf inner x innerFields :: ms',
        .inline hx href hscalar hcomplex hfree hshape hbrings rfl hname hkind hbrings', ?_, ?_⟩
      · have hpends : Pends s s₁ ts := hpends
        exact hpends.trans hsame hpends'
      · rw [hmodels', State.pendedModel, hmodels]
        simp [State.took]

end Derivations

/-! ## Blocks -/

/-- What a component schema adds to the result, and the types that its model brings along, whether
they are new or not. -/
structure Block where
  brought : List DataType
  types : List DataType
  models : List Model

/-- The blocks of some component schemas in turn, where the models of some names have been
extracted. -/
inductive Laid (document : Value) (schemas : List (String × Value)) (extracted : List String) :
    List (String × Value) → List Block → Prop
  | nil : Laid document schemas extracted [] []
  | type {done : List (String × Value)} {blocks : List Block} {name : String} {schema : Value}
      {t : DataType} : Laid document schemas extracted done blocks →
      Schema.isSimple schema = true → outcome (scalar name schema) = .ok t →
      Laid document schemas extracted (done ++ [(name, schema)]) (blocks ++ [⟨[], [t], []⟩])
  | model {done : List (String × Value)} {blocks : List Block} {name : String} {schema : Value}
      {shape : Shape} {fields : List Field} {ts : List DataType} {ms : List Model} :
      Laid document schemas extracted done blocks → Schema.isSimple schema = false →
      Schema.isComplex document schema = .ok true → name ∈ extracted →
      Shape.ofSchema document schema = .ok shape →
      Brings document schemas (schemas.map (·.1)) name shape.properties fields ts ms →
      Laid document schemas extracted (done ++ [(name, schema)]) (blocks ++ [{
        brought := ts
        types := newTypes ((blocks.flatMap (·.brought)).map (·.name)) ts
        models := ms ++ [modelOf name schema fields] }])
  | nothing {done : List (String × Value)} {blocks : List Block} {name : String} {schema : Value} :
      Laid document schemas extracted done blocks →
      (Schema.isSimple schema = true → ∃ why, outcome (scalar name schema) = .error why) →
      name ∉ extracted →
      Laid document schemas extracted (done ++ [(name, schema)]) (blocks ++ [⟨[], [], []⟩])

section Laid

variable {document : Value} {schemas done : List (String × Value)}
  {extracted extracted' : List String} {blocks : List Block}

theorem Laid.mono (h : Laid document schemas extracted done blocks) :
    (∀ c ∈ done, c.1 ∈ extracted ↔ c.1 ∈ extracted') →
      Laid document schemas extracted' done blocks := by
  induction h with
  | nil => exact fun _ => .nil
  | type _ hsimple ht ih =>
      exact fun hsame => .type (ih fun c hc => hsame c (List.mem_append_left _ hc)) hsimple ht
  | model _ hsimple hcomplex hin hshape hbrings ih =>
      exact fun hsame =>
        .model (ih fun c hc => hsame c (List.mem_append_left _ hc)) hsimple hcomplex
          ((hsame _ (List.mem_append_right _ List.mem_cons_self)).mp hin) hshape hbrings
  | nothing _ hnone hout ih =>
      exact fun hsame => .nothing (ih fun c hc => hsame c (List.mem_append_left _ hc)) hnone
        fun hin => hout ((hsame _ (List.mem_append_right _ List.mem_cons_self)).mpr hin)

theorem mem_flatMap_concat {α : Type} {f : Block → List α} {b : Block} {a : α} :
    a ∈ (blocks ++ [b]).flatMap f ↔ a ∈ blocks.flatMap f ∨ a ∈ f b := by
  rw [List.flatMap_append, List.mem_append, List.flatMap_singleton]

/-- A type of a block was brought along, or is that of a simple schema. -/
theorem Laid.types (h : Laid document schemas extracted done blocks) :
    ∀ t ∈ blocks.flatMap (·.types), t ∈ blocks.flatMap (·.brought) ∨
      ∃ schema, (t.name, schema) ∈ done ∧ Schema.isSimple schema = true := by
  have hlater : ∀ {blocks : List Block} {done : List (String × Value)} {t : DataType} {b : Block}
      {c : String × Value}, (t ∈ blocks.flatMap (·.brought) ∨
        ∃ schema, (t.name, schema) ∈ done ∧ Schema.isSimple schema = true) →
      (t ∈ (blocks ++ [b]).flatMap (·.brought) ∨
        ∃ schema, (t.name, schema) ∈ done ++ [c] ∧ Schema.isSimple schema = true) := by
    rintro blocks done t b c (ht | ⟨schema, hin, hsimple⟩)
    · exact .inl (mem_flatMap_concat.mpr (.inl ht))
    · exact .inr ⟨schema, List.mem_append_left _ hin, hsimple⟩
  induction h with
  | nil => exact fun _ ht => absurd ht List.not_mem_nil
  | @type done blocks name schema t _ hsimple ht ih =>
      intro u hu
      rcases mem_flatMap_concat.mp hu with hu | hu
      · exact hlater (ih u hu)
      · obtain rfl := List.mem_singleton.mp hu
        refine .inr ⟨schema, List.mem_append_right _ ?_, hsimple⟩
        rw [(scalar_name ht).1]
        exact List.mem_cons_self
  | model _ _ _ _ _ _ ih =>
      intro u hu
      rcases mem_flatMap_concat.mp hu with hu | hu
      · exact hlater (ih u hu)
      · exact .inl (mem_flatMap_concat.mpr (.inr ((newTypes_sublist _ _).subset hu)))
  | nothing _ _ _ ih =>
      intro u hu
      rcases mem_flatMap_concat.mp hu with hu | hu
      · exact hlater (ih u hu)
      · exact absurd hu List.not_mem_nil

/-- A type that was brought along is in a block, and has a name of its own or is that of a plain
schema. -/
theorem Laid.brought (h : Laid document schemas extracted done blocks) :
    ∀ t ∈ blocks.flatMap (·.brought), t.name ∈ (blocks.flatMap (·.types)).map (·.name) ∧
      (t.name ∉ schemas.map (·.1) ∨ ∃ schema, (t.name, schema) ∈ schemas ∧
        Schema.isSimple schema = false ∧ Schema.isPlain schema = true) := by
  have hlater : ∀ {blocks : List Block} {b : Block} {n : String},
      n ∈ (blocks.flatMap (·.types)).map (·.name) →
        n ∈ ((blocks ++ [b]).flatMap (·.types)).map (·.name) := by
    intro blocks b n hn
    rw [List.flatMap_append, List.map_append]
    exact List.mem_append_left _ hn
  induction h with
  | nil => exact fun _ ht => absurd ht List.not_mem_nil
  | type _ _ _ ih =>
      intro u hu
      rcases mem_flatMap_concat.mp hu with hu | hu
      · exact (ih u hu).imp hlater id
      · exact absurd hu List.not_mem_nil
  | @model done blocks _ _ _ _ ts _ _ _ _ _ _ hbrings ih =>
      intro u hu
      rcases mem_flatMap_concat.mp hu with hu | hu
      · exact (ih u hu).imp hlater id
      · refine ⟨?_, hbrings.types u hu⟩
        rcases name_mem_newTypes ((blocks.flatMap (·.brought)).map (·.name)) hu
          with hseen | hnew
        · obtain ⟨v, hv, hname⟩ := List.mem_map.mp hseen
          exact hlater (hname ▸ (ih v hv).1)
        · rw [List.flatMap_append, List.map_append, List.flatMap_singleton]
          exact List.mem_append_right _ hnew
  | nothing _ _ _ ih =>
      intro u hu
      rcases mem_flatMap_concat.mp hu with hu | hu
      · exact (ih u hu).imp hlater id
      · exact absurd hu List.not_mem_nil

theorem Laid.partsFirst (h : Laid document schemas extracted done blocks) :
    ∀ b ∈ blocks, PartsFirst (schemas.map (·.1)) b.models := by
  induction h with
  | nil => exact fun _ hb => absurd hb List.not_mem_nil
  | type _ _ _ ih =>
      exact List.forall_mem_append.mpr ⟨ih, List.forall_mem_singleton.mpr .nil⟩
  | model _ _ _ _ _ hbrings ih =>
      obtain ⟨hparts, hfields⟩ := hbrings.partsFirst fun c hc => List.mem_map_of_mem hc
      exact List.forall_mem_append.mpr ⟨ih, List.forall_mem_singleton.mpr (hparts.concat hfields)⟩
  | nothing _ _ _ ih =>
      exact List.forall_mem_append.mpr ⟨ih, List.forall_mem_singleton.mpr .nil⟩

/-- A simple schema has no type in the blocks of other schemas. -/
theorem Laid.new (h : Laid document schemas extracted done blocks)
    (hnodup : (schemas.map (·.1)).Nodup) {name : String} {schema : Value}
    (hin : (name, schema) ∈ schemas) (hsimple : Schema.isSimple schema = true)
    (hnew : ∀ d ∈ done, d.1 ≠ name) : name ∉ (blocks.flatMap (·.types)).map (·.name) := by
  intro hmem
  obtain ⟨t, ht, rfl⟩ := List.mem_map.mp hmem
  rcases h.types t ht with hbrought | ⟨_, hdone, _⟩
  · rcases (h.brought t hbrought).2 with hout | ⟨schema', hin', hplain, -⟩
    · exact hout (List.mem_map_of_mem hin)
    · rw [schema_unique hnodup hin hin', hplain] at hsimple
      exact nomatch hsimple
  · exact hnew _ hdone rfl

/-- Of the types that a model brings along, those that are in blocks already were brought along
before. -/
theorem Laid.newTypes_types (h : Laid document schemas extracted done blocks)
    (hnodup : (schemas.map (·.1)).Nodup) (hdone : ∀ d ∈ done, d ∈ schemas) {ts : List DataType}
    (hts : ∀ t ∈ ts, t.name ∉ schemas.map (·.1) ∨ ∃ schema, (t.name, schema) ∈ schemas ∧
      Schema.isSimple schema = false ∧ Schema.isPlain schema = true) :
    newTypes ((blocks.flatMap (·.types)).map (·.name)) ts =
      newTypes ((blocks.flatMap (·.brought)).map (·.name)) ts := by
  refine newTypes_congr fun t ht => ⟨fun hin => ?_, fun hin => ?_⟩
  · obtain ⟨u, hu, hname⟩ := List.mem_map.mp hin
    rcases h.types u hu with hbrought | ⟨schema, hin, hsimple⟩
    · exact List.mem_map.mpr ⟨u, hbrought, hname⟩
    · -- a simple schema is not brought along
      have hin := hname ▸ hdone _ hin
      rcases hts t ht with hout | ⟨schema', hin', hplain, -⟩
      · exact absurd (List.mem_map_of_mem hin) hout
      · rw [schema_unique hnodup hin hin', hplain] at hsimple
        exact nomatch hsimple
  · obtain ⟨u, hu, hname⟩ := List.mem_map.mp hin
    exact hname ▸ (h.brought u hu).1

end Laid

/-! ## Passes -/

/-- What a state has found is laid out in the blocks of some component schemas. -/
def LaidOut (document : Value) (schemas done : List (String × Value)) (s : State) : Prop :=
  ∃ blocks, Laid document schemas (s.models.map (·.name)) done blocks ∧
    s.dataTypes = blocks.flatMap (·.types) ∧ s.models = blocks.flatMap (·.models)

section Passes

variable {document : Value} {unavailable : List String} {schemas done rest : List (String × Value)}
  {A : String → Prop} {s : State}

/-- A step adds the block of its schema. -/
theorem LaidOut.step (hset : Setting document schemas A (Component schemas))
    {e : String × Value} (hsplit : schemas = done ++ e :: rest)
    (hreached : Reached ⟨document, unavailable⟩ (Component schemas) schemas done s)
    (hapart : Apart schemas s) (h : LaidOut document schemas done s) :
    LaidOut document schemas (done ++ [e]) (Extraction.step ⟨document, unavailable⟩ s e.1 e.2) := by
  obtain ⟨name, schema⟩ := e
  obtain ⟨blocks, hlaid, htypes, hmodels⟩ := h
  have he : (name, schema) ∈ schemas := by simp [hsplit]
  have hdone : ∀ d ∈ done, d ∈ schemas := fun d hd => by simp [hsplit, hd]
  have hnew : ∀ d ∈ done, d.1 ≠ name := hset.new hsplit
  have hstep : Step ⟨document, unavailable⟩ (Component schemas) s name schema _ :=
    step_spec hset.toReading (hset.component _ he) (hset.references _ he) s
  have hnext := hreached.step hset hsplit
  dsimp only at hnext ⊢
  generalize Extraction.step ⟨document, unavailable⟩ s name schema = s' at hstep hnext ⊢
  have hlater := hstep.later hreached.idleTypes hreached.idleModels
  have hlaid' : Laid document schemas (s'.models.map (·.name)) done blocks := by
    refine hlaid.mono fun c hc => ⟨fun hin => (hlater.models.map _).subset hin, fun hin => ?_⟩
    obtain ⟨m, hm, hname⟩ := List.mem_map.mp hin
    rcases hstep.mem_models hreached.idleModels m hm with hm | ⟨hfree, -⟩ | ⟨hown, -⟩
    · exact List.mem_map.mpr ⟨m, hm, hname⟩
    · exact absurd (hname ▸ hreached.taken c (hdone c hc)) hfree
    · exact absurd (hname.symm.trans hown) (hnew c hc)
  have hnewModel : name ∉ s.models.map (·.name) := by
    intro hmem
    obtain ⟨m, hm, hname⟩ := List.mem_map.mp hmem
    obtain ⟨_, hd, _⟩ := (hreached.models m hm).2 (hname ▸ List.mem_map_of_mem he)
    exact hnew _ hd hname
  cases hstep.emitted with
  | nothing hsameTypes hsameModels =>
      refine ⟨blocks ++ [⟨[], [], []⟩],
        .nothing hlaid' (fun hsimple => ?_) (hsameModels ▸ hnewModel), ?_, ?_⟩
      · have hbecame := hnext.became _ (List.mem_append_right _ List.mem_cons_self)
        rcases hbecame.simple hsimple with ⟨_, _, hin, _⟩ | ⟨why, hwhy, _⟩
        · rw [hsameTypes, htypes] at hin
          exact absurd hin (hlaid.new hset.nodup he hsimple hnew)
        · exact ⟨why, hwhy⟩
      · simp [hsameTypes, htypes]
      · simp [hsameModels, hmodels]
  | @type t s₁ hsimple hrun hgrows =>
      obtain ⟨hlookup, -⟩ := namedType_ok hrun
      have ht := (hreached.known.grows hgrows).outcome_of_known hset.nodup hlookup he
      refine ⟨blocks ++ [⟨[], [t], []⟩], .type hlaid' hsimple ht, ?_, ?_⟩
      · have hout : t.name ∉ (blocks.flatMap (·.types)).map (·.name) := by
          rw [(scalar_name ht).1]
          exact hlaid.new hset.nodup he hsimple hnew
        rw [State.emit_eq, emitAll_eq, hgrows.dataTypes, htypes, newTypes, if_neg hout,
          List.flatMap_append]
        rfl
      · rw [State.emit_eq]
        simp [hgrows.models, hmodels]
  | @model shape fields s₁ _ hsimple hcomplex hshape hfields _ hgrows =>
      have hknown : KnownUnder (Component schemas) (s.began name) := hreached.known
      have htaken : schemas.map (·.1) ⊆ (s.began name).taken := by
        intro n hn
        obtain ⟨c, hc, rfl⟩ := List.mem_map.mp hn
        exact hreached.taken c hc
      obtain ⟨ts, ms, hbrings, hpends, hpendingModels⟩ := hfields.brings hset
        (Shape.refersIn_properties hset.refersIn (hset.references _ he) hshape) hknown htaken
        fun u hu => (hapart.types u.name
          (List.mem_map_of_mem (List.mem_append_left _ hu))).1
      have hsameTypes : s₁.dataTypes = s.dataTypes := hgrows.dataTypes
      have hsameModels : s₁.models = s.models := hgrows.models
      refine ⟨_, .model hlaid' hsimple hcomplex ?_ hshape hbrings, ?_, ?_⟩
      · simp [State.finished, modelOf]
      · have hidle : (s.began name).pendingTypes = [] := hreached.idleTypes
        have hemitted : ∀ t ∈ ts, (!(s.began name).isEmitted t.name) = false →
            t.name ∈ (blocks.flatMap (·.types)).map (·.name) := by
          intro t _ hin
          have hin : (s.began name).isEmitted t.name = true := by simpa using hin
          obtain ⟨u, hu, hname⟩ := List.any_eq_true.mp hin
          have hu : u ∈ s.dataTypes := hu
          exact List.mem_map.mpr ⟨u, htypes ▸ hu, beq_iff_eq.mp hname⟩
        rw [Pends, hidle, List.nil_append] at hpends
        rw [State.finished, emitAll_eq, hpends, hsameTypes, htypes, newTypes_filter hemitted,
          hlaid.newTypes_types hset.nodup hdone hbrings.types, List.flatMap_append,
          List.flatMap_singleton]
      · have hidle : (s.began name).pendingModels = [] := hreached.idleModels
        rw [hidle, List.nil_append] at hpendingModels
        simp [State.finished, hsameModels, hmodels, hpendingModels]

theorem laidOut_pass (hset : Setting document schemas A (Component schemas)) :
    LaidOut document schemas schemas (pass document schemas unavailable) := by
  have hall : Reached ⟨document, unavailable⟩ (Component schemas) schemas schemas
        (pass document schemas unavailable) ∧ Apart schemas (pass document schemas unavailable) ∧
      LaidOut document schemas schemas (pass document schemas unavailable) := by
    refine pass_induction (P := fun done s =>
      Reached ⟨document, unavailable⟩ (Component schemas) schemas done s ∧ Apart schemas s ∧
        LaidOut document schemas done s) ?_ ?_
    · exact ⟨.start, apart_start, [], .nil, rfl, rfl⟩
    · rintro done e rest s hsplit ⟨hreached, hapart, hlaid⟩
      exact ⟨hreached.step hset hsplit, hapart.step hset hsplit hreached,
        hlaid.step hset hsplit hreached hapart⟩
  exact hall.2.2

end Passes

/-- Where the component schemas have pairwise different names and all references in them lead to
component schemas, the result is the concatenation of one block for each component schema, in
document order.  A simple schema has its own type.  A model that has been extracted has the types
that its properties bring along, in their order, without repetitions and without those that models
before it have brought along; and its inline models, each after its own parts, before the model
itself.  There is nothing of any other schema. -/
theorem result_laid_out {document : Value} {schemas : List (String × Value)}
    (hs : Document.schemas document = .ok schemas) (hdifferent : (schemas.map (·.1)).Nodup)
    (hrefs : ∀ c ∈ schemas, ∀ r ∈ c.2.references, Document.IsComponentRef r) :
    ∃ e blocks, types document = .ok e ∧
      Laid document schemas (e.models.map (·.name)) schemas blocks ∧
      e.dataTypes = blocks.flatMap (·.types) ∧ e.models = blocks.flatMap (·.models) ∧
      ∀ b ∈ blocks, PartsFirst (schemas.map (·.1)) b.models := by
  have hset := Setting.components hs hdifferent hrefs
  obtain ⟨U, hrun, -⟩ := run_accounted hs hset
  obtain ⟨blocks, hlaid, htypes, hmodels⟩ : LaidOut document schemas schemas
    (pass document schemas U) := laidOut_pass hset
  exact ⟨_, blocks, by rw [types, hrun]; rfl, hlaid, htypes, hmodels, hlaid.partsFirst⟩

/-- A document with a model that refers to scalars of which the schemas come later, one of them
twice, a model that refers to the plain one of them again, and a model that fails. -/
def laterScalars : Value :=
  .map [(.text "components", .map [(.text "schemas", .map [
    (.text "Pet", .map [(.text "type", .text "object"), (.text "properties", .map [
      (.text "tag", .map [(.text "$ref", .text "#/components/schemas/Tag")]),
      (.text "code", .map [(.text "$ref", .text "#/components/schemas/Code")]),
      (.text "owner", .map [(.text "type", .text "object"), (.text "properties", .map [
        (.text "name", .map [(.text "type", .text "string")])])]),
      (.text "label", .map [(.text "$ref", .text "#/components/schemas/Tag")])])]),
    (.text "Broken", .map [(.text "type", .text "object"), (.text "properties", .map [
      (.text "size", .map [(.text "type", .text "string")]),
      (.text "parts", .map [(.text "type", .text "array")])])]),
    (.text "Tag", .map [(.text "type", .text "string")]),
    (.text "Code", .map [(.text "type", .text "string"), (.text "maxLength", .int 3)]),
    (.text "Shop", .map [(.text "type", .text "object"), (.text "properties", .map [
      (.text "tag", .map [(.text "$ref", .text "#/components/schemas/Tag")]),
      (.text "name", .map [(.text "type", .text "string")])])])])])]

theorem laterScalars_laid_out : ∃ e blocks schemas, types laterScalars = .ok e ∧
    Document.schemas laterScalars = .ok schemas ∧
    Laid laterScalars schemas (e.models.map (·.name)) schemas blocks ∧
    e.dataTypes = blocks.flatMap (·.types) ∧ e.models = blocks.flatMap (·.models) ∧
    e.dataTypes.map (·.name) = ["Tag", "PetOwnerName", "Code", "ShopName"] ∧
    e.models.map (·.name) = ["PetOwner", "Pet", "Shop"] := by
  obtain ⟨schemas, hs⟩ : ∃ schemas, Document.schemas laterScalars = .ok schemas := ⟨_, by rfl⟩
  have hnames : (types laterScalars).map (fun e =>
      (e.dataTypes.map (·.name), e.models.map (·.name))) =
      .ok (["Tag", "PetOwnerName", "Code", "ShopName"], ["PetOwner", "Pet", "Shop"]) := by
    decide +kernel
  have hrefs : ∀ c ∈ schemas, ∀ r ∈ c.2.references,
      r = "#/components/schemas/Tag" ∨ r = "#/components/schemas/Code" := by
    cases hs
    decide
  obtain ⟨e, blocks, he, hlaid, htypes, hmodels, -⟩ :=
    result_laid_out hs (by cases hs; decide) fun c hc r hr => by
      rcases hrefs c hc r hr with rfl | rfl
      · exact ⟨"Tag".toList, by decide, rfl⟩
      · exact ⟨"Code".toList, by decide, rfl⟩
  rw [he] at hnames
  obtain ⟨htypeNames, hmodelNames⟩ := Prod.mk.inj (Except.ok.inj hnames)
  exact ⟨e, blocks, schemas, he, hs, hlaid, htypes, hmodels, htypeNames, hmodelNames⟩

end Typewright.Extraction
