/-
# Schemas depend on a document through what references lead to

Two documents in which the references of a schema lead to the same schemas (`SameTargets`) give the
schema the same shape (`ofSchema_eq`), and so make of it the same kind of schema.

The number of references that may be followed differs with the documents.  It is never met in either
of them, since what has been followed on a way are different texts that occur in both.
-/
import Typewright.Proofs.Schema.Fault

namespace Typewright

/-- References of some kind lead to the same in two documents, and the first one has no others. -/
structure SameTargets (A : String → Prop) (document document' : Value) : Prop where
  refersIn : document.RefersIn A
  resolve : ∀ {r}, A r →
    Document.resolve document' (.text r) = Document.resolve document (.text r)

namespace Shape

section Merging

variable {A : String → Prop} {follow follow' : Value → Except Failure Shape}

/-- Merging gives the same where references among the members are followed to the same shapes. -/
theorem mergeAll_eq
    (hfollow : ∀ {es ref}, (Value.map es).RefersIn A → (Value.map es).get? "$ref" = some ref →
      follow' ref = follow ref) :
    ∀ v : Value, v.RefersIn A → mergeAll follow' v = mergeAll follow v := by
  refine (mergeAll.mutual_induct
    (fun v => v.RefersIn A → mergeAll follow' v = mergeAll follow v)
    (fun es => (∀ e ∈ es, e.2.RefersIn A) → mergeMembers follow' es = mergeMembers follow es)
    (fun v => v.RefersIn A → mergeMember follow' v = mergeMember follow v)
    (fun done vs => (∀ v ∈ vs, v.RefersIn A) →
      mergeItems follow' done vs = mergeItems follow done vs)
    ?map ?notMap ?list ?tuple ?set ?mapping ?text ?bytes ?given ?notGiven ?noItem ?reference
    ?schema ?noSchema ?noEntry ?members ?otherEntry).1
  case map =>
    intro es ih hrefs
    rw [mergeAll, mergeAll, ih fun _ he => hrefs.entry he]
  case notMap =>
    intro v hv _
    cases v with
    | map es => exact absurd rfl (hv es)
    | _ => rfl
  case list | tuple =>
    intro items ih hrefs
    rw [mergeMember, mergeMember]
    exact ih fun v hv => hrefs.item hv
  case set | mapping | text | bytes =>
    intro _ _
    rw [mergeMember, mergeMember]
  case given | notGiven =>
    intro v h₁ h₂ h₃ h₄ h₅ h₆ _ _
    rw [mergeMember, mergeMember] <;> assumption
  case noItem =>
    intro done _
    rw [mergeItems, mergeItems]
  case reference =>
    intro done es r ref href ih hrefs
    rw [mergeItems, mergeItems]
    simp only [href]
    rw [hfollow (hrefs _ List.mem_cons_self) href]
    cases follow ref with
    | error e => rfl
    | ok part => exact ih part fun v hv => hrefs v (List.mem_cons_of_mem _ hv)
  case schema =>
    intro done es r href ihmap ih hrefs
    rw [mergeItems, mergeItems]
    simp only [href]
    rw [ihmap (hrefs _ List.mem_cons_self)]
    cases mergeAll follow (.map es) with
    | error e => rfl
    | ok part => exact ih part fun v hv => hrefs v (List.mem_cons_of_mem _ hv)
  case noSchema =>
    intro done v r hv ih hrefs
    rw [mergeItems, mergeItems]
    · exact ih fun w hw => hrefs w (List.mem_cons_of_mem _ hw)
    · exact hv
    · exact hv
  case noEntry =>
    intro _
    rw [mergeMembers, mergeMembers]
  case members =>
    intro k v r hk ih hrefs
    rw [mergeMembers, mergeMembers, if_pos hk, if_pos hk]
    exact ih (hrefs (k, v) List.mem_cons_self)
  case otherEntry =>
    intro k v r hk ih hrefs
    rw [mergeMembers, mergeMembers, if_neg hk, if_neg hk]
    exact ih fun e he => hrefs e (List.mem_cons_of_mem _ he)

end Merging

variable {A : String → Prop} {document document' : Value}

/-- Two bounds on the references that are followed give the same shape, as neither is met. -/
theorem after_eq {pool pool' : List String} (h : SameTargets A document document')
    (hdocument : document.RefersIn (· ∈ pool)) (hdocument' : document'.RefersIn (· ∈ pool')) :
    ∀ (more more' : Nat) (followed : List String) (v : Value),
      v.RefersIn (fun r => A r ∧ r ∈ pool ∧ r ∈ pool') → followed.Nodup →
      followed ⊆ pool → followed ⊆ pool' → pool.length < more + followed.length →
      pool'.length < more' + followed.length →
      after document' more' followed v = after document more followed v
  | 0, _, _, _, _, hnodup, hsub, _, hbound, _ =>
      absurd (length_lt_of_bound hnodup hsub hbound) (Nat.lt_irrefl 0)
  | _, 0, _, _, _, hnodup, _, hsub', _, hbound' =>
      absurd (length_lt_of_bound hnodup hsub' hbound') (Nat.lt_irrefl 0)
  | more + 1, more' + 1, followed, v, hrefs, hnodup, hsub, hsub', hbound, hbound' => by
      rw [after, after]
      refine mergeAll_eq (fun {es ref} hes href => ?_) v hrefs
      split
      · rfl
      · rename_i s _
        obtain ⟨hA, hpool, hpool'⟩ := hes.ref_key href
        rw [h.resolve hA]
        split
        · rfl
        · rename_i hnew
          split
          · rename_i target htarget
            refine after_eq h hdocument hdocument' more more' (s :: followed) target
              (fun r hr => ⟨?_, ?_, ?_⟩) (List.nodup_cons.mpr ⟨by simpa using hnew, hnodup⟩)
              (List.cons_subset.mpr ⟨hpool, hsub⟩) (List.cons_subset.mpr ⟨hpool', hsub'⟩)
              (by rw [List.length_cons]; omega) (by rw [List.length_cons]; omega)
            · exact Document.refersIn_resolve h.refersIn htarget r hr
            · exact Document.refersIn_resolve hdocument htarget r hr
            · exact Document.refersIn_resolve hdocument' ((h.resolve hA).trans htarget) r hr
          · rfl
      · rfl

theorem ofSchema_eq (h : SameTargets A document document') {schema : Value}
    (hschema : schema.RefersIn A) : ofSchema document' schema = ofSchema document schema :=
  after_eq h (fun _ hr => List.mem_append_left _ hr) (fun _ hr => List.mem_append_left _ hr) _ _ []
    schema (fun r hr => ⟨hschema r hr, List.mem_append_right _ hr, List.mem_append_right _ hr⟩)
    List.nodup_nil (List.nil_subset _) (List.nil_subset _) (Nat.lt_succ_self _)
    (Nat.lt_succ_self _)

end Shape

theorem Schema.isComplex_eq {A : String → Prop} {document document' : Value}
    (h : SameTargets A document document') {schema : Value} (hschema : schema.RefersIn A) :
    isComplex document' schema = isComplex document schema := by
  unfold isComplex
  rw [Shape.ofSchema_eq h hschema]

end Typewright
