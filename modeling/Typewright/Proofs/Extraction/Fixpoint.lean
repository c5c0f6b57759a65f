/-
# The passes reach the least set of unavailable models

Let `failures U` be the models that fail in a pass with the models `U` unavailable.  The passes
start with no model unavailable and add the failures of each pass (`unavailableAt`).  As `failures`
is monotone and never leaves the names of the component schemas, they stop at the least `U` with
`failures U ⊆ U`, and that `U` is what fails in the last pass.

Being least, it holds no model without need.  Models that refer to nothing but each other are all
outside of some set that is closed, hence none of them is unavailable (`survivors`).
-/
import Mathlib.Data.Finset.Card
import Mathlib.Data.Nat.Find
import Typewright.Proofs.Extraction.Monotone

namespace Typewright.Extraction

variable (document : Value) (schemas : List (String × Value))

/-- The names whose models fail in a pass with some models unavailable. -/
def failures (unavailable : List String) : List String := (pass document schemas unavailable).failed

/-- Unavailable models that are all the models that fail because of them. -/
def Closed (unavailable : List String) : Prop := failures document schemas unavailable ⊆ unavailable

/-- The models that are unavailable in each of the passes. -/
def unavailableAt : Nat → List String
  | 0 => []
  | k + 1 => union (unavailableAt k) (failures document schemas (unavailableAt k))

variable {document schemas}

/-! ## Failures -/

theorem failures_mono {U V : List String} (hUV : U ⊆ V) (hV : V ⊆ schemas.map (·.1))
    (hnames : "" ∉ schemas.map (·.1)) : failures document schemas U ⊆ failures document schemas V :=
  pass_failed_mono hUV (fun h => hnames (hV h)) hnames

theorem failures_subset (U : List String) : failures document schemas U ⊆ schemas.map (·.1) := by
  have hall : (pass document schemas U).failed ⊆ schemas.map (·.1) ∧
      (pass document schemas U).pendingTypes = [] ∧
      (pass document schemas U).pendingModels = [] := by
    refine pass_induction (P := fun done s => s.failed ⊆ done.map (·.1) ∧ s.pendingTypes = [] ∧
      s.pendingModels = []) ⟨fun _ h => absurd h List.not_mem_nil, rfl, rfl⟩ ?_
    rintro done e rest s - ⟨hfailed, htypes, hmodels⟩
    have hstep : Step ⟨document, U⟩ (fun _ _ => True) s e.1 e.2 _ :=
      step_spec ⟨fun _ _ _ _ => trivial, fun _ _ => trivial⟩ trivial (A := fun _ => True)
        (fun _ _ => trivial) s
    have hlater := hstep.later htypes hmodels
    refine ⟨fun n hn => ?_, hlater.idleTypes, hlater.idleModels⟩
    rw [List.map_append, List.mem_append]
    by_cases hname : n = e.1
    · exact .inr (by simp [hname])
    · exact .inl (hfailed ((hlater.failed n hname).mp hn))
  exact hall.1

theorem mem_union {names more : List String} {n : String} :
    n ∈ union names more ↔ n ∈ names ∨ n ∈ more := by
  unfold union
  rw [List.mem_append, List.mem_filter]
  by_cases hn : n ∈ names <;> simp [hn]

theorem unavailableAt_subset : ∀ k, unavailableAt document schemas k ⊆ schemas.map (·.1)
  | 0 => fun _ h => absurd h List.not_mem_nil
  | k + 1 => fun _ hn =>
      (mem_union.mp hn).elim (@unavailableAt_subset k _) (@failures_subset _ _ _ _)

/-- The unavailable models of each pass fail in it. -/
theorem unavailableAt_fail (hnames : "" ∉ schemas.map (·.1)) :
    ∀ k, unavailableAt document schemas k ⊆
      failures document schemas (unavailableAt document schemas k)
  | 0 => fun _ h => absurd h List.not_mem_nil
  | k + 1 => by
      intro n hn
      have hmore : unavailableAt document schemas k ⊆ unavailableAt document schemas (k + 1) :=
        fun _ hn => mem_union.mpr (.inl hn)
      refine failures_mono hmore (unavailableAt_subset (k + 1)) hnames ?_
      exact (mem_union.mp hn).elim (@unavailableAt_fail hnames k _) id

/-- No closed set of names has less than what is unavailable in some pass. -/
theorem unavailableAt_least (hnames : "" ∉ schemas.map (·.1)) {W : List String}
    (hW : W ⊆ schemas.map (·.1)) (hclosed : Closed document schemas W) :
    ∀ k, unavailableAt document schemas k ⊆ W
  | 0 => fun _ h => absurd h List.not_mem_nil
  | k + 1 => by
      have ih := unavailableAt_least hnames hW hclosed k
      intro n hn
      rcases mem_union.mp hn with hn | hn
      · exact ih hn
      · exact hclosed (failures_mono ih hW hnames hn)

/-! ## The passes -/

/-- As long as no set is closed, each pass makes one more model unavailable. -/
theorem le_card_unavailableAt :
    ∀ k, (∀ i < k, ¬Closed document schemas (unavailableAt document schemas i)) →
      k ≤ (unavailableAt document schemas k).toFinset.card
  | 0, _ => Nat.zero_le _
  | k + 1, hopen => by
      have ih := le_card_unavailableAt k fun i hi => hopen i (Nat.lt_succ_of_lt hi)
      have hnew : ∃ n ∈ failures document schemas (unavailableAt document schemas k),
          n ∉ unavailableAt document schemas k := by
        simpa [Closed, List.subset_def] using hopen k (Nat.lt_succ_self k)
      obtain ⟨n, hn, hnot⟩ := hnew
      have hlt : (unavailableAt document schemas k).toFinset ⊂
          (unavailableAt document schemas (k + 1)).toFinset := by
        refine (Finset.ssubset_iff_of_subset fun m hm => ?_).mpr ⟨n, ?_, ?_⟩
        · exact List.mem_toFinset.mpr (mem_union.mpr (.inl (List.mem_toFinset.mp hm)))
        · exact List.mem_toFinset.mpr (mem_union.mpr (.inr hn))
        · exact fun h => hnot (List.mem_toFinset.mp h)
      exact Nat.succ_le_of_lt (Nat.lt_of_le_of_lt ih (Finset.card_lt_card hlt))

/-- One of the first passes, no more of them than there are schemas and one, is closed. -/
theorem exists_closed : ∃ k ≤ schemas.length,
    Closed document schemas (unavailableAt document schemas k) := by
  by_contra hnone
  have hopen : ∀ i < schemas.length + 1,
      ¬Closed document schemas (unavailableAt document schemas i) :=
    fun i hi hclosed => hnone ⟨i, Nat.le_of_lt_succ hi, hclosed⟩
  have hle := le_card_unavailableAt (schemas.length + 1) hopen
  have hcard : (unavailableAt document schemas (schemas.length + 1)).toFinset.card ≤
      schemas.length := by
    calc (unavailableAt document schemas (schemas.length + 1)).toFinset.card
        ≤ (schemas.map (·.1)).toFinset.card := Finset.card_le_card fun n hn =>
          List.mem_toFinset.mpr (unavailableAt_subset _ (List.mem_toFinset.mp hn))
      _ ≤ (schemas.map (·.1)).length := List.toFinset_card_le _
      _ = schemas.length := List.length_map _
  omega

variable (document schemas) in
theorem first_closed : ∃ k ≤ schemas.length,
    Closed document schemas (unavailableAt document schemas k) ∧
    ∀ i < k, ¬Closed document schemas (unavailableAt document schemas i) := by
  classical
  obtain ⟨n, hn, hclosed⟩ : ∃ k ≤ schemas.length,
    Closed document schemas (unavailableAt document schemas k) := exists_closed
  have hex : ∃ n, Closed document schemas (unavailableAt document schemas n) := ⟨n, hclosed⟩
  exact ⟨Nat.find hex, (Nat.find_min' hex hclosed).trans hn, Nat.find_spec hex,
    fun _ hi => Nat.find_min hex hi⟩

theorem all_contains_iff {names U : List String} : names.all U.contains = true ↔ names ⊆ U := by
  simp [List.subset_def]

theorem passesFrom_eq {k : Nat}
    (hclosed : Closed document schemas (unavailableAt document schemas k)) :
    ∀ more i : Nat, i ≤ k → k < i + more →
      (∀ j < k, ¬Closed document schemas (unavailableAt document schemas j)) →
      passesFrom document schemas more (unavailableAt document schemas i) =
        (List.range' i (k + 1 - i)).map fun j =>
          pass document schemas (unavailableAt document schemas j)
  | 0, i, hi, hk, _ => absurd hk (by omega)
  | more + 1, i, hi, hk, hopen => by
      rw [passesFrom]
      by_cases hik : i = k
      · subst hik
        have hyes : (pass document schemas (unavailableAt document schemas i)).failed.all
            (unavailableAt document schemas i).contains = true := all_contains_iff.mpr hclosed
        rw [if_pos hyes]
        simp
      · have hlt : i < k := by omega
        have hnot : ¬(pass document schemas (unavailableAt document schemas i)).failed.all
            (unavailableAt document schemas i).contains = true :=
          fun h => hopen i hlt (all_contains_iff.mp h)
        have hlen : k + 1 - i = (k + 1 - (i + 1)) + 1 := by omega
        rw [if_neg hnot, hlen, List.range'_succ, List.map_cons]
        exact congrArg _ (passesFrom_eq hclosed more (i + 1) (by omega) (by omega) hopen)

theorem passes_eq (hs : Document.schemas document = .ok schemas) {k : Nat}
    (hk : k ≤ schemas.length) (hclosed : Closed document schemas (unavailableAt document schemas k))
    (hopen : ∀ i < k, ¬Closed document schemas (unavailableAt document schemas i)) :
    passes document = .ok ((List.range (k + 1)).map fun i =>
      pass document schemas (unavailableAt document schemas i)) := by
  have hfrom := passesFrom_eq hclosed (schemas.length + 1) 0 (Nat.zero_le k) (by omega) hopen
  rw [Nat.sub_zero, ← List.range_eq_range'] at hfrom
  unfold passes
  rw [hs]
  exact congrArg Except.ok hfrom

theorem run_eq {k : Nat}
    (h : passes document = .ok ((List.range (k + 1)).map fun i =>
      pass document schemas (unavailableAt document schemas i))) :
    run document = .ok (pass document schemas (unavailableAt document schemas k)) := by
  have hlast : lastOf ((List.range (k + 1)).map fun i =>
      pass document schemas (unavailableAt document schemas i)) =
      pass document schemas (unavailableAt document schemas k) := by
    simp [lastOf, List.range_succ]
  rw [run, h, Except.map, hlast]

theorem union_of_subset {names more : List String} (h : more ⊆ names) :
    union names more = names := by
  have hnone : more.filter (fun n => !names.contains n) = [] :=
    List.filter_eq_nil_iff.mpr fun n hn => by simpa using h hn
  rw [union, hnone, List.append_nil]

/-- Nothing more becomes unavailable after a closed set of names. -/
theorem unavailableAt_of_closed {k : Nat}
    (hclosed : Closed document schemas (unavailableAt document schemas k)) {j : Nat} (hj : k ≤ j) :
    unavailableAt document schemas j = unavailableAt document schemas k := by
  induction j, hj using Nat.le_induction with
  | base => rfl
  | succ j _ ih =>
      rw [unavailableAt, ih]
      exact union_of_subset hclosed

/-- Any closed set among the names that become unavailable gives the result. -/
theorem run_of_closed (hs : Document.schemas document = .ok schemas) {k : Nat}
    (hclosed : Closed document schemas (unavailableAt document schemas k)) :
    run document = .ok (pass document schemas (unavailableAt document schemas k)) := by
  obtain ⟨m, hm, hfirst, hopen⟩ := first_closed document schemas
  have hle : m ≤ k := Nat.le_of_not_lt fun hlt => hopen k hlt hclosed
  rw [unavailableAt_of_closed hfirst hle]
  exact run_eq (passes_eq hs hm hfirst hopen)

/-! ## Survivors -/

/-- A property of an owner whose type is one of some models, by reference, or an inline scalar. -/
def PropertyWithin (document : Value) (S : List String) (owner : String) (p : String × Value) :
    Prop :=
  p.2.isMap = true ∧ ∃ x isCollection, typeSource document owner p.1 p.2 = .ok (x, isCollection) ∧
    ((∃ ref name target, Schema.ref? x = some ref ∧ referent document ref = .ok (name, target) ∧
      Schema.isSimple target = false ∧ Schema.isComplex document target = .ok true ∧ name ∈ S) ∨
    Schema.ref? x = none ∧ Schema.isScalar x = true ∧
      ∃ cs, outcome (Schema.constraints owner x (Schema.kind x)) = .ok cs)

/-- An object schema that refers to nothing but some models. -/
def ModelWithin (document : Value) (S : List String) (name : String) (schema : Value) : Prop :=
  schema.isMap = true ∧ Schema.isSimple schema = false ∧
    Schema.isComplex document schema = .ok true ∧
    ∃ shape, Shape.ofSchema document schema = .ok shape ∧ shape.properties ≠ [] ∧
      ∀ p ∈ shape.properties, PropertyWithin document S name p

section Survivors

variable {S V : List String} {owner : String}

theorem PropertyWithin.run {p : String × Value} (h : PropertyWithin document S owner p)
    (howner : owner ≠ "") (hS : ∀ n ∈ S, n ≠ "" ∧ n ∉ V) (build : Builder)
    (required : List String) (s : State) :
    ∃ f s', (property build ⟨document, V⟩ owner required p.1 p.2).run.run s =
      (.ok (some f), s') := by
  obtain ⟨hmap, x, c, hx, hcases⟩ := h
  have htype : ∃ t s', (typeOf build ⟨document, V⟩ (hint owner p.1 x c) x).run.run s =
      (.ok (some t), s') := by
    rw [run_typeOf]
    rcases hcases with ⟨ref, name, target, href, hreferent, hsimple, hcomplex, hname⟩ |
      ⟨href, hscalar, cs, hcs⟩
    · obtain ⟨t, ht, -⟩ := modelReference_ok (hS name hname).1 target
      have havailable : ¬V.contains name = true := by simpa using (hS name hname).2
      refine ⟨t, s, ?_⟩
      simp only [href, run_referenceType, hreferent, hsimple, hcomplex, ht, Bool.false_eq_true,
        if_false, if_neg havailable]
    · have hname : Name.fresh s.taken (Name.pascal (hint owner p.1 x c)) ≠ "" :=
        inlineNameOf_ne_empty s (hint_ne_empty howner p.1 x c)
      have hok := (Schema.outcome_scalarType_eq_ok owner).mpr ⟨hname, cs, hcs, rfl⟩
      simp only [href, hscalar, if_true, scalar]
      rw [hok]
      exact ⟨_, _, rfl⟩
  obtain ⟨t, s', ht⟩ := htype
  rw [run_property, if_pos hmap, run_propertyType, hx]
  dsimp only
  rw [ht]
  exact ⟨_, s', rfl⟩

theorem properties_run (build : Builder) (required : List String) (howner : owner ≠ "")
    (hS : ∀ n ∈ S, n ≠ "" ∧ n ∉ V) :
    ∀ (ps : List (String × Value)) (s : State), (∀ p ∈ ps, PropertyWithin document S owner p) →
      ∃ fields s', (properties build ⟨document, V⟩ owner required ps).run.run s =
        (.ok fields, s') ∧ fields.length = ps.length
  | [], s, _ => ⟨[], s, rfl, rfl⟩
  | p :: rest, s, hps => by
      obtain ⟨f, s₁, hf⟩ := (hps p List.mem_cons_self).run howner hS build required s
      obtain ⟨fields, s₂, hfields, hlen⟩ := properties_run build required howner hS rest s₁
        fun q hq => hps q (List.mem_cons_of_mem _ hq)
      refine ⟨f :: fields, s₂, ?_, by simp [hlen]⟩
      rw [run_properties_cons, hf]
      dsimp only
      rw [hfields]
      rfl

theorem ModelWithin.run {schema : Value} (h : ModelWithin document S owner schema)
    (howner : owner ≠ "") (hS : ∀ n ∈ S, n ≠ "" ∧ n ∉ V) (s : State) :
    ∃ m s', (model ⟨document, V⟩ owner schema).run.run s = (.ok m, s') := by
  obtain ⟨-, -, -, shape, hshape, hne, hps⟩ := h
  obtain ⟨fields, s', hfields, hlen⟩ := properties_run (modelWithin ⟨document, V⟩ 299)
    shape.required howner hS shape.properties s hps
  have hfieldsne : ¬fields.isEmpty = true := by
    intro h
    rw [List.isEmpty_iff.mp h] at hlen
    exact hne (List.length_eq_zero_iff.mp hlen.symm)
  refine ⟨modelOf owner schema fields, s', ?_⟩
  rw [model, maxNesting, modelWithin_succ, run_modelWith, hshape]
  dsimp only
  rw [hfields]
  dsimp only
  rw [if_neg hfieldsne]

/-- Models that refer only to each other do not fail while they are available. -/
theorem survivors (hS : ∀ n ∈ S, n ≠ "" ∧ n ∉ V)
    (hwithin : ∀ n ∈ S, ∀ schema, (n, schema) ∈ schemas → ModelWithin document S n schema) :
    ∀ n ∈ S, n ∉ failures document schemas V := by
  have hall : (∀ n ∈ S, n ∉ (pass document schemas V).failed) ∧
      (pass document schemas V).pendingTypes = [] ∧
      (pass document schemas V).pendingModels = [] := by
    refine pass_induction (P := fun _ s => (∀ n ∈ S, n ∉ s.failed) ∧ s.pendingTypes = [] ∧
      s.pendingModels = []) ⟨fun _ _ => List.not_mem_nil, rfl, rfl⟩ ?_
    rintro done e rest s hsplit ⟨hfailed, htypes, hmodels⟩
    have hstep : Step ⟨document, V⟩ (fun _ _ => True) s e.1 e.2 _ :=
      step_spec ⟨fun _ _ _ _ => trivial, fun _ _ => trivial⟩ trivial (A := fun _ => True)
        (fun _ _ => trivial) s
    have hlater := hstep.later htypes hmodels
    refine ⟨fun n hn hin => ?_, hlater.idleTypes, hlater.idleModels⟩
    by_cases hname : n = e.1
    · subst hname
      have hmodel := hwithin e.1 hn e.2 (by simp [hsplit])
      obtain ⟨m, s', hm⟩ := hmodel.run (hS e.1 hn).1 hS (s.began e.1)
      obtain ⟨hmap, hsimple, hcomplex, -⟩ := hmodel
      simp only [step_eq, run_namedSchema, hmap, hsimple, hcomplex, hm, Bool.not_true,
        Bool.false_eq_true, if_false] at hin
      simp [State.finished] at hin
    · exact hfailed n hn ((hlater.failed n hname).mp hin)
  exact hall.1

end Survivors

/-! ## The result -/

section Result

variable {A : String → Prop} {R : String → Value → Prop} {U : List String}

theorem Reached.unavailable {s : State} (h : Reached ⟨document, U⟩ R schemas schemas s)
    {m p target : String} (hw : .propertyUnavailable m p target ∈ s.warnings) : target ∈ U := by
  rcases h.warnings _ hw with ⟨e, -, habout⟩ | hnoted
  · exact nomatch habout
  · cases hnoted with
    | facet h => exact nomatch h
    | unavailable _ htarget => exact htarget

/-- A complex schema that does not fail has a model. -/
theorem Reached.mem_models {s : State} (h : Reached ⟨document, U⟩ R schemas schemas s)
    {name : String} {schema : Value} (he : (name, schema) ∈ schemas) (hmap : schema.isMap = true)
    (hsimple : Schema.isSimple schema = false)
    (hcomplex : Schema.isComplex document schema = .ok true) (hfailed : name ∉ s.failed) :
    name ∈ s.models.map (·.name) := by
  cases h.became _ he with
  | notSchema h => exact nomatch hmap.symm.trans h
  | type _ h => exact nomatch hsimple.symm.trans h
  | typeFailed _ h => exact nomatch hsimple.symm.trans h
  | unclassified _ _ h => exact nomatch hcomplex.symm.trans h
  | model _ _ _ h => exact h
  | modelFailed _ _ _ _ h => exact absurd h hfailed
  | plain _ _ h => exact nomatch hcomplex.symm.trans h
  | untyped _ _ h => exact nomatch hcomplex.symm.trans h

end Result

/-- The passes over a document stop, at the latest with one pass more than there are component
schemas, with the least unavailable models that are all the models that fail because of them; and
just these fail in the last pass. So a property is left out because of an unavailable model only
where the result has no such model, and models that refer only to each other are in the result. -/
theorem passes_reach_least (hs : Document.schemas document = .ok schemas)
    (hnames : "" ∉ schemas.map (·.1)) :
    (∀ U V, U ⊆ V → V ⊆ schemas.map (·.1) →
      failures document schemas U ⊆ failures document schemas V) ∧
    ∃ k ≤ schemas.length, ∃ U, U = unavailableAt document schemas k ∧
      passes document = .ok ((List.range (k + 1)).map fun i =>
        pass document schemas (unavailableAt document schemas i)) ∧
      run document = .ok (pass document schemas U) ∧
      (∀ i < k, ¬Closed document schemas (unavailableAt document schemas i)) ∧
      Closed document schemas U ∧ U ⊆ schemas.map (·.1) ∧
      (∀ W ⊆ schemas.map (·.1), Closed document schemas W → U ⊆ W) ∧
      (∀ n, n ∈ failures document schemas U ↔ n ∈ U) ∧
      ((schemas.map (·.1)).Nodup →
        (∀ m p target, .propertyUnavailable m p target ∈ (pass document schemas U).warnings →
          target ∉ (pass document schemas U).models.map (·.name)) ∧
        ∀ S ⊆ schemas.map (·.1),
          (∀ n ∈ S, ∀ schema, (n, schema) ∈ schemas → ModelWithin document S n schema) →
          S ⊆ (pass document schemas U).models.map (·.name)) := by
  refine ⟨fun U V hUV hV => failures_mono hUV hV hnames, ?_⟩
  obtain ⟨k, hk, hclosed, hopen⟩ := first_closed document schemas
  have hpasses := passes_eq hs hk hclosed hopen
  have hfail : unavailableAt document schemas k ⊆ _ := unavailableAt_fail hnames k
  refine ⟨k, hk, _, rfl, hpasses, run_eq hpasses, hopen, hclosed, unavailableAt_subset k,
    fun W hW hW' => unavailableAt_least hnames hW hW' k, fun n => ⟨@hclosed n, @hfail n⟩,
    fun hnodup => ?_⟩
  have hreached : Reached ⟨document, unavailableAt document schemas k⟩ _ schemas schemas _ :=
    reached_pass (Setting.any hnodup)
  refine ⟨fun m p target hw => ?_, fun S hS hwithin n hn => ?_⟩
  · exact (hreached.failed target (hfail (hreached.unavailable hw))).2
  · -- all names but those in `S` are closed
    obtain ⟨⟨_, schema⟩, he, rfl⟩ := List.mem_map.mp (hS hn)
    obtain ⟨hmap, hsimple, hcomplex, -⟩ := hwithin _ hn schema he
    refine hreached.mem_models he hmap hsimple hcomplex fun hfailed => ?_
    have hothers : Closed document schemas ((schemas.map (·.1)).filter (!S.contains ·)) := by
      intro X hX
      have hXS : X ∉ S := fun hXS =>
        survivors (V := (schemas.map (·.1)).filter (!S.contains ·))
          (fun Y hY => ⟨fun h => hnames (h ▸ hS hY), by simp [hY]⟩) hwithin X hXS hX
      exact List.mem_filter.mpr ⟨failures_subset _ hX, by simpa using hXS⟩
    have hleast := unavailableAt_least hnames (fun _ h => (List.mem_filter.mp h).1) hothers k
    have hin := (List.mem_filter.mp (hleast (hclosed hfailed))).2
    simp [hn] at hin

/-- An object schema whose only property is a reference to a component schema. -/
def referring (property name : String) : Value :=
  .map [(.text "type", .text "object"), (.text "properties", .map [(.text property,
    .map [(.text "$ref", .text ("#/components/schemas/" ++ name))])])]

/-- A document with two models that refer to each other. -/
def mutualModels : Value :=
  .map [(.text "components", .map [(.text "schemas", .map [
    (.text "A", referring "b" "B"), (.text "B", referring "a" "A")])])]

theorem mutualModels_survive :
    ∃ s, run mutualModels = .ok s ∧ ["A", "B"] ⊆ s.models.map (·.name) := by
  have hs : Document.schemas mutualModels =
      .ok [("A", referring "b" "B"), ("B", referring "a" "A")] := by rfl
  obtain ⟨-, _, -, _, -, -, hrun, -, -, -, -, -, hresult⟩ := passes_reach_least hs (by decide)
  refine ⟨_, hrun, (hresult (by decide)).2 _ (by decide) fun n _ schema he => ?_⟩
  rcases List.mem_cons.mp he with h | he
  · obtain ⟨rfl, rfl⟩ := Prod.mk.inj h
    refine ⟨by rfl, by rfl, by rfl, ⟨[("b", _)], []⟩, by rfl, List.cons_ne_nil _ _, fun p hp => ?_⟩
    obtain rfl := List.mem_singleton.mp hp
    exact ⟨by rfl, _, _, by rfl, .inl ⟨_, "B", _, by rfl, by rfl, by rfl, by rfl, by decide⟩⟩
  · obtain ⟨rfl, rfl⟩ := Prod.mk.inj (List.mem_singleton.mp he)
    refine ⟨by rfl, by rfl, by rfl, ⟨[("a", _)], []⟩, by rfl, List.cons_ne_nil _ _, fun p hp => ?_⟩
    obtain rfl := List.mem_singleton.mp hp
    exact ⟨by rfl, _, _, by rfl, .inl ⟨_, "A", _, by rfl, by rfl, by rfl, by rfl, by decide⟩⟩

end Typewright.Extraction
