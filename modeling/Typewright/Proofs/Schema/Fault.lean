/-
# The faults that work on a schema can meet

Work that may stop is described by what it comes to (`ComesTo`): a value of one kind, or a failure
of another, and in either case it only adds to what was noted.  Applied to schemas, this finds the
faults among the failures.  Merging the members of a schema stops at a fault only where members are
no collection or where a reference among them cannot be a key (`Unmergeable`), reading facets only
where a pattern is too much for the reader of regular expressions, a bound has no order, or a number
that is to be told has no text (`FacetFault`).  The constraints that come out can be traced to the
facets they are read from (`ReadFrom`).

References are followed with a bound on their number.  The bound is never met: the references that
have been followed on a way are different texts that occur in the document or the schema, and so are
fewer than the bound (`length_lt_of_bound`).
-/
import Mathlib.Data.List.ProdSigma
import Typewright.Proofs.Schema.Facets
import Typewright.Proofs.Schema.Shape

namespace Typewright

/-! ## What work comes to -/

/-- Failures that are faults of some kinds, if they are faults at all. -/
def FaultIn (G : Fault → Prop) (e : Failure) : Prop := ∀ f, e = .fault f → G f

namespace FaultIn

variable {G G' : Fault → Prop}

theorem mono (h : ∀ f, G f → G' f) {e : Failure} (he : FaultIn G e) : FaultIn G' e :=
  fun f hf => h f (he f hf)

theorem fault {f : Fault} (h : G f) : FaultIn G (.fault f) := fun _ he => Failure.fault.inj he ▸ h

theorem flaw (f : Flaw) : FaultIn G (.flaw f) := fun _ he => Failure.noConfusion he

theorem problem (p : Problem) : FaultIn G (.problem p) := fun _ he => Failure.noConfusion he

/-- A problem that cannot be told is a fault of its value. -/
theorem ofProblem {p : Problem} (h : p.hasText = false → G .value) : FaultIn G (.ofProblem p) := by
  unfold Failure.ofProblem
  split
  · exact problem p
  · rename_i hno
    exact fault (h (by simpa using hno))

end FaultIn

theorem Yields.faults {α : Type} {P : α → Prop} {G G' : Fault → Prop} {x : Except Failure α}
    (h : Yields P (FaultIn G) x) (hG : ∀ f, G f → G' f) : Yields P (FaultIn G') x :=
  h.mono fun _ => .mono hG

section ComesTo

variable {α β : Type} {P : α → Prop} {Q : β → Prop} {F : Failure → Prop}

/-- Work that comes to a value of one kind or a failure of another, and only adds to what was
noted. -/
def ComesTo (P : α → Prop) (F : Failure → Prop) (work : Noting α) : Prop :=
  ∀ ws, Yields P F (work.run.run ws).1 ∧ ws <+: (work.run.run ws).2

namespace ComesTo

protected theorem pure {a : α} (h : P a) : ComesTo P F (pure a) :=
  fun _ => ⟨h, List.prefix_rfl⟩

protected theorem throw {e : Failure} (h : F e) : ComesTo P F (throw e) :=
  fun _ => ⟨h, List.prefix_rfl⟩

theorem note (w : Warning) : ComesTo (fun _ => True) F (note w) :=
  fun ws => ⟨trivial, List.prefix_append ws [w]⟩

theorem ok {x : Noting α} {a : α} (h : ComesTo P F x) (ha : outcome x = .ok a) : P a := by
  have hresult := (h []).1
  rw [← outcome, ha] at hresult
  exact hresult

/-- Work that notes warnings of one kind comes to anything. -/
theorem of_notesOnly {N : Warning → Prop} {x : Noting α} (h : NotesOnly N x) :
    ComesTo (fun _ => True) (fun _ => True) x := by
  intro ws
  rw [h.run ws]
  refine ⟨?_, List.prefix_append _ _⟩
  cases outcome x <;> trivial

protected theorem bind {x : Noting α} {f : α → Noting β} (hx : ComesTo P F x)
    (hf : ∀ a, P a → ComesTo Q F (f a)) : ComesTo Q F (x >>= f) := by
  intro ws
  have h := hx ws
  rw [noting_run_bind]
  rcases hrun : x.run.run ws with ⟨e | a, ws'⟩ <;> rw [hrun] at h
  · exact h
  · obtain ⟨hresult, hnoted⟩ := hf a h.1 ws'
    exact ⟨hresult, h.2.trans hnoted⟩

theorem mono {F' : Failure → Prop} {x : Noting α} (h : ComesTo P F x)
    (hF : ∀ e, F e → F' e) : ComesTo P F' x :=
  fun ws => ⟨(h ws).1.mono hF, (h ws).2⟩

theorem faults {G G' : Fault → Prop} {x : Noting α} (h : ComesTo P (FaultIn G) x)
    (hG : ∀ f, G f → G' f) : ComesTo P (FaultIn G') x :=
  h.mono fun _ => .mono hG

theorem mapM {f : α → Noting β} : ∀ {as : List α}, (∀ a ∈ as, ComesTo Q F (f a)) →
    ComesTo (fun bs => ∀ b ∈ bs, Q b) F (as.mapM f)
  | [], _ => .pure fun _ hb => absurd hb List.not_mem_nil
  | a :: as, h => by
      rw [List.mapM_cons]
      refine (h a List.mem_cons_self).bind fun b hb => ?_
      refine (mapM fun a' ha => h a' (List.mem_cons_of_mem a ha)).bind fun bs hbs => ?_
      exact .pure (List.forall_mem_cons.mpr ⟨hb, hbs⟩)

/-- What work on each element of a list comes to, where that depends on the element. -/
theorem mapM_forall₂ {R : α → β → Prop} {f : α → Noting β} : ∀ {as : List α},
    (∀ a ∈ as, ComesTo (R a) F (f a)) → ComesTo (List.Forall₂ R as) F (as.mapM f)
  | [], _ => .pure .nil
  | a :: as, h => by
      rw [List.mapM_cons]
      refine (h a List.mem_cons_self).bind fun b hb => ?_
      refine (mapM_forall₂ fun a' ha => h a' (List.mem_cons_of_mem a ha)).bind fun bs hbs => ?_
      exact .pure (.cons hb hbs)

theorem foldlM {f : β → α → Noting β} : ∀ {as : List α} {b : β}, Q b →
    (∀ a ∈ as, ∀ b, Q b → ComesTo Q F (f b a)) → ComesTo Q F (as.foldlM f b)
  | [], _, hb, _ => .pure hb
  | a :: as, b, hb, h => by
      rw [List.foldlM_cons]
      exact (h a List.mem_cons_self b hb).bind fun b' hb' =>
        foldlM hb' fun a' ha => h a' (List.mem_cons_of_mem a ha)

protected theorem tryCatch {x : Noting α} {handle : Failure → Noting α} {F' : Failure → Prop}
    (hx : ComesTo P F x) (hhandle : ∀ e, F e → ComesTo P F' (handle e)) :
    ComesTo P F' (tryCatch x handle) := by
  intro ws
  have h := hx ws
  simp only [tryCatch, tryCatchThe, MonadExceptOf.tryCatch, ExceptT.tryCatch, ExceptT.mk,
    ExceptT.run, StateT.run, bind, StateT.bind] at h ⊢
  rcases hrun : x ws with ⟨e | a, ws'⟩ <;> rw [hrun] at h
  · obtain ⟨hresult, hnoted⟩ := hhandle e h.1 ws'
    exact ⟨hresult, h.2.trans hnoted⟩
  · exact h

end ComesTo

end ComesTo

/-! ## Facets -/

namespace Schema

/-- A number that a schema has as a bound of its values. -/
def HasBound (schema : Value) (n : Number) : Prop :=
  ∃ side, schema.get (boundFacet side) = .num n ∨ schema.get (exclusiveFacet side) = .num n

/-- The faults that reading the facets of a schema can meet: those of the reader of regular
expressions, that of a bound without an order, and that of a number which has no text and is to be
told. -/
inductive FacetFault (schema : Value) : Fault → Prop
  | pattern {f : Fault} : patternRefusal? (schema.get "pattern") = some (.error f) →
      FacetFault schema f
  | bound {n : Number} : HasBound schema n → n.unordered = true → FacetFault schema .decimal
  | text {facet : String} : (schema.get facet).hasText = false → FacetFault schema .value

variable {name : String} {schema : Value} {kind : Kind} {side : Side}

theorem FacetFault.number {facet : String} {n : Number} (h : schema.get facet = .num n)
    (htext : n.hasText = false) : FacetFault schema .value := by
  refine @FacetFault.text schema facet ?_
  rw [h, Value.hasText, htext]

/-- The limit, the bound or the members in a constraint are those of a facet of a schema. -/
def ReadFrom (schema : Value) : Constraint → Prop
  | .length side n => schema.get (lengthFacet side) = .int n
  | .bound _ n _ => HasBound schema n
  | .allowed members => ∃ values, schema.get "enum" = .list values ∧
      members = values.filter fun v => !v.isNull
  | _ => True

/-- Constraints that are all of one sort. -/
def AllOf (P : Constraint → Prop) (cs : List Constraint) : Prop := ∀ c ∈ cs, P c

namespace AllOf

variable {P : Constraint → Prop}

theorem nil : AllOf P [] := fun _ h => absurd h List.not_mem_nil

theorem one {c : Constraint} (h : P c) : AllOf P [c] := fun _ hc => List.mem_singleton.mp hc ▸ h

theorem append {cs cs' : List Constraint} (h : AllOf P cs) (h' : AllOf P cs') :
    AllOf P (cs ++ cs') :=
  fun c hc => (List.mem_append.mp hc).elim (h c) (h' c)

end AllOf

/-! ### Values that are constraints -/

theorem ofPattern_ok {v : Value} {c : Constraint} (h : Constraint.ofPattern v = .ok c) :
    ∃ s, v = .text s ∧ s ≠ "" ∧ c = .pattern s := by
  unfold Constraint.ofPattern at h
  split at h
  · split at h
    · exact nomatch h
    · rename_i s hs
      exact ⟨s, rfl, by simpa using hs, (Except.ok.inj h).symm⟩
  · exact nomatch h

theorem ofPattern_flaw {v : Value} {f : Flaw} (h : Constraint.ofPattern v = .error f) :
    f = .emptyPattern := by
  unfold Constraint.ofPattern at h
  split at h
  · split at h
    · exact (Except.error.inj h).symm
    · exact nomatch h
  · exact (Except.error.inj h).symm

theorem ofLength_ok {v : Value} {c : Constraint} (h : Constraint.ofLength side v = .ok c) :
    ∃ n : Nat, v = .int n ∧ c = .length side n := by
  unfold Constraint.ofLength at h
  split at h
  · split at h
    · exact nomatch h
    · rename_i n hn
      exact ⟨n.toNat, by rw [Int.toNat_of_nonneg (by omega)], (Except.ok.inj h).symm⟩
  · exact nomatch h

/-- A flaw of a length tells the value. -/
theorem ofLength_flaw {v : Value} {f : Flaw} (h : Constraint.ofLength side v = .error f) :
    f.hasText = v.hasText := by
  unfold Constraint.ofLength at h
  split at h
  · split at h
    · exact (Except.error.inj h) ▸ rfl
    · exact nomatch h
  · exact (Except.error.inj h) ▸ rfl

theorem ofBound_ok {edge : Edge} {v : Value} {c : Constraint}
    (h : Constraint.ofBound side edge v = .ok c) : ∃ n, v = .num n ∧ c = .bound side n edge := by
  unfold Constraint.ofBound at h
  split at h
  · exact ⟨_, rfl, (Except.ok.inj h).symm⟩
  · exact nomatch h

/-- A flaw of a bound tells the value. -/
theorem ofBound_flaw {edge : Edge} {v : Value} {f : Flaw}
    (h : Constraint.ofBound side edge v = .error f) : f.hasText = v.hasText := by
  unfold Constraint.ofBound at h
  split at h
  · exact nomatch h
  · exact (Except.error.inj h) ▸ rfl

/-! ### Facets one by one -/

theorem tell_comesTo {G : Fault → Prop} {w : Warning} (h : w.hasText = false → G .value) :
    ComesTo (fun _ => True) (FaultIn G) (tell w) := by
  unfold tell
  split
  · exact .note w
  · rename_i htext
    exact .throw (.fault (h (by simpa using htext)))

theorem unlessFlawed_comesTo {α : Type} {P : α → Prop} {G : Fault → Prop} {x : Except Flaw α}
    (h : ∀ a, x = .ok a → P a) (hflaw : ∀ f, x = .error f → f.hasText = false → G .value) :
    ComesTo P (FaultIn G) (unlessFlawed x) := by
  cases x with
  | ok a => exact .pure (h a rfl)
  | error f =>
      refine .throw ?_
      cases hf : f.hasText with
      | true => exact .flaw f
      | false => exact .fault (hflaw f rfl hf)

theorem patternConstraint_comesTo :
    ComesTo (AllOf (ReadFrom schema)) (FaultIn (FacetFault schema))
      (patternConstraint name schema kind) := by
  unfold patternConstraint
  dsimp only
  split
  · exact .pure .nil
  · split
    · exact (ComesTo.note _).bind fun _ _ => .pure .nil
    · split
      · exact (tell_comesTo .text).bind fun _ _ => .pure .nil
      · rename_i f hrefused
        exact .throw (.fault (.pattern hrefused))
      · refine (unlessFlawed_comesTo (P := ReadFrom schema) (fun c hc => ?_) fun f hf htext => ?_).bind
          fun c hc => .pure (.one hc)
        · obtain ⟨s, -, -, rfl⟩ := ofPattern_ok hc
          trivial
        · rw [ofPattern_flaw hf] at htext
          cases htext

theorem lengthConstraint_comesTo :
    ComesTo (AllOf (ReadFrom schema)) (FaultIn (FacetFault schema))
      (lengthConstraint name schema kind side) := by
  unfold lengthConstraint
  dsimp only
  split
  · exact .pure .nil
  · split
    · exact (ComesTo.note _).bind fun _ _ => .pure .nil
    · refine (unlessFlawed_comesTo (P := ReadFrom schema) (fun c hc => ?_) fun f hf htext => ?_).bind
        fun c hc => .pure (.one hc)
      · obtain ⟨n, hn, rfl⟩ := ofLength_ok hc
        exact hn
      · exact .text (ofLength_flaw hf ▸ htext)

/-- A bound that is read from a facet is a bound of the schema. -/
theorem oneBound_comesTo {edge : Edge} {given : Bool} {facet : String}
    (hfacet : facet = boundFacet side ∨ facet = exclusiveFacet side) :
    ComesTo (AllOf (ReadFrom schema)) (FaultIn (FacetFault schema))
      (oneBound side edge given (schema.get facet)) := by
  unfold oneBound
  split
  · refine (unlessFlawed_comesTo (P := ReadFrom schema) (fun c hc => ?_) fun f hf htext => ?_).bind
      fun c hc => .pure (.one hc)
    · obtain ⟨n, hn, rfl⟩ := ofBound_ok hc
      rcases hfacet with rfl | rfl
      · exact ⟨side, .inl hn⟩
      · exact ⟨side, .inr hn⟩
    · exact .text (ofBound_flaw hf ▸ htext)
  · exact .pure .nil

theorem boundConstraints_comesTo :
    ComesTo (AllOf (ReadFrom schema)) (FaultIn (FacetFault schema))
      (boundConstraints name schema kind side) := by
  rw [boundConstraints_eq]
  dsimp only
  split
  · exact .pure .nil
  · split
    · exact (ComesTo.note _).bind fun _ _ => .pure .nil
    · exact (oneBound_comesTo (.inl rfl)).bind fun _ hfirst =>
        (oneBound_comesTo (.inr rfl)).bind fun _ hsecond => .pure (hfirst.append hsecond)

theorem enumConstraint_comesTo :
    ComesTo (AllOf (ReadFrom schema)) (FaultIn (FacetFault schema)) (enumConstraint name schema) := by
  unfold enumConstraint
  split
  · exact .pure .nil
  · rename_i values henum
    split
    · exact .pure .nil
    · exact .pure (.one ⟨values, henum, rfl⟩)
  · exact (ComesTo.note _).bind fun _ _ => .pure .nil

/-! ### Constraints that exclude each other -/

theorem mem_lengths {cs : List Constraint} {n : Nat} (h : n ∈ lengths side cs) :
    .length side n ∈ cs := by
  obtain ⟨c, hc, hn⟩ := List.mem_filterMap.mp h
  split at hn
  · split at hn
    · rename_i hside
      cases hn
      exact beq_iff_eq.mp hside ▸ hc
    · exact nomatch hn
  · exact nomatch hn

theorem mem_bounds {cs : List Constraint} {b : Number × Edge} :
    b ∈ bounds side cs ↔ .bound side b.1 b.2 ∈ cs := by
  constructor
  · intro h
    obtain ⟨c, hc, hb⟩ := List.mem_filterMap.mp h
    split at hb
    · split at hb
      · rename_i hside
        cases hb
        exact beq_iff_eq.mp hside ▸ hc
      · exact nomatch hb
    · exact nomatch hb
  · exact fun h => List.mem_filterMap.mpr ⟨_, h, by simp⟩

/-- Limits on the length that are reported are the greatest from below and the least from above. -/
theorem emptyLengths_eq_some {cs : List Constraint} {low high : Nat} :
    emptyLengths? cs = some (low, high) ↔
      (lengths .lower cs).max? = some low ∧ (lengths .upper cs).min? = some high ∧ high < low := by
  unfold emptyLengths?
  cases (lengths .lower cs).max? with
  | none => simp
  | some m =>
      cases (lengths .upper cs).min? with
      | none => simp
      | some n =>
          simp only [Option.some.injEq]
          split <;> simp <;> omega

theorem emptyBounds_fault {f : Fault} : ∀ {pairs : List ((Number × Edge) × (Number × Edge))},
    emptyBounds? pairs = .error f →
      f = .decimal ∧ ∃ p ∈ pairs, p.1.1.unordered = true ∨ p.2.1.unordered = true
  | [], h => nomatch h
  | (low, high) :: r, h => by
      rw [emptyBounds?] at h
      by_cases hunordered : low.1.unordered = true ∨ high.1.unordered = true
      · have hexcludes : excludes low high = .error .decimal := by
          unfold excludes
          exact if_pos (by simpa using hunordered)
        rw [hexcludes] at h
        cases h
        exact ⟨rfl, _, List.mem_cons_self, hunordered⟩
      · unfold excludes at h
        rw [if_neg (by simpa using hunordered)] at h
        have hrest : emptyBounds? r = .error f := by
          change (if _ then _ else _) = _ at h
          split at h
          · exact nomatch h
          · exact h
        obtain ⟨hf, p, hp, hp'⟩ := emptyBounds_fault hrest
        exact ⟨hf, p, List.mem_cons_of_mem _ hp, hp'⟩

/-- Bounds that are reported exclude each other. -/
theorem emptyBounds_some {low high : Number} :
    ∀ {pairs : List ((Number × Edge) × (Number × Edge))}, emptyBounds? pairs = .ok (some (low, high)) →
      ∃ p ∈ pairs, p.1.1 = low ∧ p.2.1 = high ∧ excludes p.1 p.2 = .ok true
  | [], h => nomatch h
  | p :: r, h => by
      rw [emptyBounds?] at h
      cases hexcludes : excludes p.1 p.2 with
      | error f =>
          rw [hexcludes] at h
          exact nomatch h
      | ok excluded =>
          rw [hexcludes] at h
          cases excluded with
          | true =>
              cases h
              exact ⟨p, List.mem_cons_self, rfl, rfl, hexcludes⟩
          | false =>
              obtain ⟨q, hq, hrest⟩ := emptyBounds_some h
              exact ⟨q, List.mem_cons_of_mem _ hq, hrest⟩

theorem checkSatisfiable_comesTo {cs : List Constraint} (h : AllOf (ReadFrom schema) cs) :
    ComesTo (fun _ => True) (FaultIn (FacetFault schema)) (checkSatisfiable name cs) := by
  have hlength : ∀ {side : Side} {n : Nat}, n ∈ lengths side cs → (Number.int n).hasText = false →
      FacetFault schema .value := by
    intro side n hn htext
    have hfacet : schema.get (lengthFacet side) = .int n := h _ (mem_lengths hn)
    exact .number hfacet htext
  have hbound : ∀ {side : Side} {b : Number × Edge}, b ∈ bounds side cs → HasBound schema b.1 :=
    fun hb => h _ (mem_bounds.mp hb)
  have hboundText : ∀ {n : Number}, HasBound schema n → n.hasText = false →
      FacetFault schema .value := by
    rintro n ⟨side, hn | hn⟩ htext
    · exact .number hn htext
    · exact .number hn htext
  have hpairs : ∀ p ∈ (bounds .lower cs).flatMap
      (fun low => (bounds .upper cs).map fun high => (low, high)),
      HasBound schema p.1.1 ∧ HasBound schema p.2.1 := by
    rintro ⟨low, high⟩ hp
    obtain ⟨hlow, hhigh⟩ := List.mem_product.mp hp
    exact ⟨hbound hlow, hbound hhigh⟩
  have hnoLength : ∀ {low high : Nat}, emptyLengths? cs = some (low, high) →
      ComesTo (fun _ => True) (FaultIn (FacetFault schema)) (tell (.noLength name low high)) := by
    intro low high hlengths
    obtain ⟨hlow, hhigh, -⟩ := emptyLengths_eq_some.mp hlengths
    refine tell_comesTo fun htext => ?_
    rw [Warning.hasText, Bool.and_eq_false_iff] at htext
    rcases htext with htext | htext
    · exact hlength (List.max?_mem hlow) htext
    · exact hlength (List.min?_mem hhigh) htext
  unfold checkSatisfiable
  dsimp only
  rcases hempty : emptyBounds? _ with f | _ | ⟨low, high⟩
  · obtain ⟨rfl, p, hp, hunordered⟩ := emptyBounds_fault hempty
    have hfault : FacetFault schema .decimal :=
      hunordered.elim (.bound (hpairs p hp).1) (.bound (hpairs p hp).2)
    split
    · rename_i hlengths
      exact (hnoLength hlengths).bind fun _ _ => .throw (.fault hfault)
    · exact .throw (.fault hfault)
  · split
    · rename_i hlengths
      exact (hnoLength hlengths).bind fun _ _ => .pure trivial
    · exact .pure trivial
  · obtain ⟨p, hp, rfl, rfl, -⟩ := emptyBounds_some hempty
    have hnoValue : ComesTo (fun _ => True) (FaultIn (FacetFault schema))
        (tell (.noValue name p.1.1 p.2.1)) := by
      refine tell_comesTo fun htext => ?_
      rw [Warning.hasText, Bool.and_eq_false_iff] at htext
      rcases htext with htext | htext
      · exact hboundText (hpairs p hp).1 htext
      · exact hboundText (hpairs p hp).2 htext
    split
    · rename_i hlengths
      exact (hnoLength hlengths).bind fun _ _ => hnoValue
    · exact hnoValue

theorem constraints_comesTo :
    ComesTo (AllOf (ReadFrom schema)) (FaultIn (FacetFault schema))
      (constraints name schema kind) := by
  unfold constraints
  refine patternConstraint_comesTo.bind fun _ hpattern => ?_
  refine lengthConstraint_comesTo.bind fun _ hmin => ?_
  refine lengthConstraint_comesTo.bind fun _ hmax => ?_
  refine boundConstraints_comesTo.bind fun _ hlower => ?_
  refine boundConstraints_comesTo.bind fun _ hupper => ?_
  refine enumConstraint_comesTo.bind fun _ henum => ?_
  have hall := ((((hpattern.append hmin).append hmax).append hlower).append hupper).append henum
  exact (checkSatisfiable_comesTo hall).bind fun _ _ => .pure hall

end Schema

/-! ## Following references -/

/-- References that have been followed are fewer than the bound on their number, if they are different
and occur among `pool`. -/
theorem length_lt_of_bound {pool followed : List String} {more : Nat} (hnodup : followed.Nodup)
    (hsub : followed ⊆ pool) (hbound : pool.length < more + followed.length) : 0 < more := by
  have hlength : followed.length ≤ pool.length := hnodup.length_le_of_subset hsub
  omega

/-! ## Merging -/

namespace Shape

/-- The members that a schema is merged from. -/
def partsOf (schema : Value) : List Value :=
  (Document.members (schema.get "allOf")).toOption.getD []

/-- Schemas that cannot be merged, with the fault: their members are no collection, a reference among
them cannot be a key or has no text, or one of them cannot be merged itself. -/
inductive Unmergeable (document : Value) : Value → Fault → Prop
  | members {schema : Value} {f : Fault} : (schema.get "allOf").isGiven = true →
      Document.members (schema.get "allOf") = .error f → Unmergeable document schema f
  | key {schema part ref : Value} : part ∈ partsOf schema → part.get? "$ref" = some ref →
      ref.keyFault?.isSome = true → Unmergeable document schema .type
  | untold {schema part ref : Value} : part ∈ partsOf schema → part.get? "$ref" = some ref →
      ref.hasText = false → Unmergeable document schema .value
  | target {schema part ref target : Value} {f : Fault} : part ∈ partsOf schema →
      part.get? "$ref" = some ref → Document.resolve document ref = .ok target →
      Unmergeable document target f → Unmergeable document schema f
  | part {schema part : Value} {f : Fault} : part ∈ partsOf schema →
      part.get? "$ref" = none → Unmergeable document part f → Unmergeable document schema f

variable {document : Value} {A : String → Prop}

/-- What can be wrong with a reference among members. -/
def BadReference (document ref : Value) (f : Fault) : Prop :=
  ref.keyFault?.isSome = true ∧ f = .type ∨ ref.hasText = false ∧ f = .value ∨
    ∃ target, Document.resolve document ref = .ok target ∧ Unmergeable document target f

theorem BadReference.unmergeable {schema part ref : Value} {f : Fault} (hpart : part ∈ partsOf schema)
    (href : part.get? "$ref" = some ref) (h : BadReference document ref f) :
    Unmergeable document schema f := by
  rcases h with ⟨hkey, rfl⟩ | ⟨hno, rfl⟩ | ⟨target, htarget, hbad⟩
  · exact .key hpart href hkey
  · exact .untold hpart href hno
  · exact .target hpart href htarget hbad

theorem partsOf_eq {schema : Value} {ms : List Value}
    (h : Document.members (schema.get "allOf") = .ok ms) : partsOf schema = ms := by
  rw [partsOf, h]
  rfl

theorem get_cons (k v : Value) (r : List (Value × Value)) (key : String) :
    (Value.map ((k, v) :: r)).get key = if k.isText key then v else (Value.map r).get key := by
  unfold Value.get Value.get?
  dsimp only
  rw [List.find?_cons]
  cases k.isText key <;> rfl

/-- Merging a schema meets no other faults, if following a reference does not. -/
theorem mergeAll_faults {follow : Value → Except Failure Shape}
    (hfollow : ∀ {es ref}, (Value.map es).RefersIn A → (Value.map es).get? "$ref" = some ref →
      Yields (fun _ => True) (FaultIn (BadReference document ref)) (follow ref)) :
    ∀ v : Value, v.isMap = true → v.RefersIn A →
      Yields (fun _ => True) (FaultIn (Unmergeable document v)) (mergeAll follow v) := by
  refine (mergeAll.mutual_induct
    (fun v => v.isMap = true → v.RefersIn A →
      Yields (fun _ => True) (FaultIn (Unmergeable document v)) (mergeAll follow v))
    (fun es => ∀ schema, schema.get "allOf" = (Value.map es).get "allOf" →
      (∀ e ∈ es, e.2.RefersIn A) →
      Yields (fun _ => True) (FaultIn (Unmergeable document schema)) (mergeMembers follow es))
    (fun v => ∀ schema, schema.get "allOf" = v → v.RefersIn A →
      Yields (fun _ => True) (FaultIn (Unmergeable document schema)) (mergeMember follow v))
    (fun done vs => ∀ schema ms, Document.members (schema.get "allOf") = .ok ms → vs ⊆ ms →
      (∀ v ∈ vs, v.RefersIn A) →
      Yields (fun _ => True) (FaultIn (Unmergeable document schema)) (mergeItems follow done vs))
    ?map ?notMap ?list ?tuple ?set ?mapping ?text ?bytes ?given ?notGiven ?noItem ?reference
    ?schema ?noSchema ?noEntry ?members ?otherEntry).1
  case map =>
    intro es ih _ hrefs
    rw [mergeAll]
    refine (ih (.map es) rfl fun _ he => hrefs.entry he).bind fun members _ => ?_
    refine (own_yields (M := fun _ => True) trivial (fun _ _ _ _ _ _ => trivial)
      (.problem _) (.problem _)).bind fun _ _ => trivial
  case notMap =>
    intro v hv hmap
    cases v with
    | map es => exact absurd rfl (hv es)
    | _ => cases hmap
  case list | tuple =>
    intro items ih schema hschema hrefs
    rw [mergeMember]
    refine ih schema items (by rw [hschema]; rfl) (fun _ h => h) fun v hv => ?_
    exact hrefs.item hv
  case set | mapping | text | bytes =>
    intro _ _ _ _
    rw [mergeMember]
    trivial
  case given | notGiven =>
    intro v h₁ h₂ h₃ h₄ h₅ h₆ hgiven schema hschema _
    rw [mergeMember]
    · simp only [hgiven]
      first
        | exact trivial
        | refine .fault (.members (hschema ▸ hgiven) ?_)
          rw [hschema]
          unfold Document.members
          split <;> first | rfl | (exfalso; simp_all)
    all_goals assumption
  case noItem =>
    intro done _ _ _ _ _
    rw [mergeItems]
    trivial
  case reference =>
    intro done es r ref href ih schema ms hms hsub hrefs
    have hpart : Value.map es ∈ partsOf schema := partsOf_eq hms ▸ hsub List.mem_cons_self
    rw [mergeItems]
    simp only [href]
    refine Yields.bind ((hfollow (hrefs _ List.mem_cons_self) href).faults fun f hf =>
      hf.unmergeable hpart href) fun part _ => ?_
    exact ih part schema ms hms (fun _ h => hsub (List.mem_cons_of_mem _ h))
      fun v hv => hrefs v (List.mem_cons_of_mem _ hv)
  case schema =>
    intro done es r href ihmap ih schema ms hms hsub hrefs
    have hpart : Value.map es ∈ partsOf schema := partsOf_eq hms ▸ hsub List.mem_cons_self
    rw [mergeItems]
    simp only [href]
    refine Yields.bind ((ihmap rfl (hrefs _ List.mem_cons_self)).faults fun f hf =>
      .part hpart href hf) fun part _ => ?_
    exact ih part schema ms hms (fun _ h => hsub (List.mem_cons_of_mem _ h))
      fun v hv => hrefs v (List.mem_cons_of_mem _ hv)
  case noSchema =>
    intro done v r hv ih schema ms hms hsub hrefs
    rw [mergeItems]
    · exact ih schema ms hms (fun _ h => hsub (List.mem_cons_of_mem _ h))
        fun v hv => hrefs v (List.mem_cons_of_mem _ hv)
    · exact hv
  case noEntry =>
    intro _ _ _
    rw [mergeMembers]
    trivial
  case members =>
    intro k v r hk ih schema hschema hrefs
    rw [mergeMembers, if_pos hk]
    refine ih schema ?_ (hrefs (k, v) List.mem_cons_self)
    rw [hschema, get_cons, if_pos hk]
  case otherEntry =>
    intro k v r hk ih schema hschema hrefs
    rw [mergeMembers, if_neg hk]
    refine ih schema ?_ fun e he => hrefs e (List.mem_cons_of_mem _ he)
    rw [hschema, get_cons, if_neg hk]

theorem after_faults {pool : List String} (hdocument : document.RefersIn (· ∈ pool)) :
    ∀ (more : Nat) (followed : List String) (v : Value), v.isMap = true → v.RefersIn (· ∈ pool) →
      followed.Nodup → followed ⊆ pool → pool.length < more + followed.length →
      Yields (fun _ => True) (FaultIn (Unmergeable document v)) (after document more followed v)
  | 0, _, _, _, _, hnodup, hsub, hbound =>
      absurd (length_lt_of_bound hnodup hsub hbound) (Nat.lt_irrefl 0)
  | more + 1, followed, v, hmap, hrefs, hnodup, hsub, hbound => by
      rw [after]
      refine mergeAll_faults (A := (· ∈ pool)) (fun {es ref} hes href => ?_) v hmap hrefs
      split
      · rename_i hkey
        exact .fault (.inl ⟨by rw [hkey]; rfl, rfl⟩)
      · rename_i s _
        split
        · exact .problem _
        · rename_i hnew
          split
          · rename_i target htarget
            have hpool : s ∈ pool := hes.ref_key href
            refine (after_faults hdocument more (s :: followed) target
              (Document.isMap_of_resolve htarget) (Document.refersIn_resolve hdocument htarget)
              (List.nodup_cons.mpr ⟨by simpa using hnew, hnodup⟩)
              (List.cons_subset.mpr ⟨hpool, hsub⟩) (by rw [List.length_cons]; omega)).faults
              fun f hf => .inr (.inr ⟨target, htarget, hf⟩)
          · rename_i broken hbroken
            refine .ofProblem fun hno => .inr (.inl ⟨?_, rfl⟩)
            exact (Document.hasText_of_resolve hbroken).symm.trans hno
      · exact .ofProblem fun hno => .inr (.inl ⟨hno, rfl⟩)

/-- The shape of a schema meets no faults but those of members that cannot be merged. -/
theorem ofSchema_faults {schema : Value} (hmap : schema.isMap = true) :
    Yields (fun _ => True) (FaultIn (Unmergeable document schema)) (ofSchema document schema) :=
  after_faults (fun _ hr => List.mem_append_left _ hr) _ [] schema hmap
    (fun _ hr => List.mem_append_right _ hr) List.nodup_nil (List.nil_subset _) (Nat.lt_succ_self _)

end Shape

end Typewright
