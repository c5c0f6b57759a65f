/-
# Ways through schemas come to an end

Work on a schema goes on to schemas inside of it and through references to schemas anywhere in the
document, so the size of the schema alone does not bound it.  What does is that a reference is
followed only once on a way: a way either goes inside, which makes the schema smaller, or uses up
one of the finitely many references that the document and the schema hold.  `Narrows.not_endless`
says so for every kind of work that keeps to these two moves.

Endless chains are also what an infinite unfolding means, and `endless_of_return` finds one behind
every schema that leads back to itself.
-/
import Mathlib.Logic.Relation
import Mathlib.Order.WellFounded
import Typewright.Proofs.Schema.Fault

namespace Typewright

/-! ## Endless chains -/

section Endless

variable {α : Type} {step : α → α → Prop} {a b : α}

/-- There is a chain of steps that starts at `a` and never ends. -/
def Endless (step : α → α → Prop) (a : α) : Prop :=
  ∃ chain : Nat → α, chain 0 = a ∧ ∀ n, step (chain n) (chain (n + 1))

theorem acc_iff_not_endless : Acc (fun y x => step x y) a ↔ ¬Endless step a := by
  unfold Endless
  rw [← not_iff_not, not_not]
  exact not_acc_iff_exists_descending_chain

/-- Where steps lead back to what they came from, there is an endless chain. -/
theorem endless_of_return (hab : Relation.ReflTransGen step a b)
    (hbb : Relation.TransGen step b b) : Endless step a := by
  by_contra h
  have hb : Acc (fun y x => step x y) b := by
    refine Relation.ReflTransGen.head_induction_on
      (motive := fun x _ => Acc (fun y x => step x y) x → Acc (fun y x => step x y) b)
      hab id (fun hstep _ ih hx => ih (hx.inv hstep)) (acc_iff_not_endless.mpr h)
  have hnever : ∀ x, Acc (fun y x => step x y) x → ¬Relation.TransGen step x x := by
    intro x hx
    induction hx with
    | intro x _ ih =>
        intro hxx
        obtain ⟨y, hxy, hyx⟩ := Relation.TransGen.head'_iff.mp hxx
        exact ih y hxy (.tail' hyx hxy)
  exact hnever b hb hbb

end Endless

/-! ## Ways -/

/-- What a key leads to is smaller, also where it leads to nothing. -/
theorem Value.sizeOf_get_lt {v : Value} (key : String) (h : v.isMap = true) :
    sizeOf (v.get key) < sizeOf v := by
  cases hget : v.get? key with
  | none =>
      rw [Value.get, hget, Option.getD_none]
      cases v with
      | map entries => cases entries <;> simp only [Value.map.sizeOf_spec, Value.null.sizeOf_spec,
          List.nil.sizeOf_spec, List.cons.sizeOf_spec] <;> omega
      | _ => cases h
  | some x =>
      obtain ⟨entries, k, rfl, -, he⟩ := exists_entry_of_get? hget
      have hentry := List.sizeOf_lt_of_mem he
      rw [Value.get, hget, Option.getD_some]
      simp only [Prod.mk.sizeOf_spec, Value.map.sizeOf_spec] at hentry ⊢
      omega

namespace Document

/-- One move of a way, with the references that have been followed on it: to a schema inside of the
schema, or through a reference that has not been followed yet. -/
inductive Goes (document : Value) (inside : Value → Value → Prop) (refers : Value → String → Prop) :
    List String × Value → List String × Value → Prop
  | inside {followed : List String} {schema inner : Value} : inside schema inner →
      Goes document inside refers (followed, schema) (followed, inner)
  | through {followed : List String} {schema target : Value} {r : String} : refers schema r →
      r ∉ followed → resolve document (.text r) = .ok target →
      Goes document inside refers (followed, schema) (r :: followed, target)

/-- Going inside makes a schema smaller and meets no references that are not in it, and the
references that are followed are those of the schema. -/
structure Narrows (inside : Value → Value → Prop) (refers : Value → String → Prop) : Prop where
  smaller : ∀ {schema inner}, inside schema inner → sizeOf inner < sizeOf schema
  references : ∀ {schema inner}, inside schema inner → inner.references ⊆ schema.references
  refers : ∀ {schema r}, refers schema r → r ∈ schema.references

/-- What is known on a way whose references are all in a pool: they are followed once. -/
structure Within (pool : List String) (state : List String × Value) : Prop where
  nodup : state.1.Nodup
  followed : state.1 ⊆ pool
  schema : state.2.RefersIn (· ∈ pool)

variable {document : Value} {inside : Value → Value → Prop} {refers : Value → String → Prop}
  {pool : List String}

theorem Within.start (document schema : Value) :
    Within (document.references ++ schema.references) ([], schema) :=
  ⟨List.nodup_nil, List.nil_subset _, fun _ hr => List.mem_append_right _ hr⟩

/-- No more references are followed on a way than there are. -/
theorem Within.length_le {state : List String × Value} (h : Within pool state) :
    state.1.length ≤ pool.length :=
  h.nodup.length_le_of_subset h.followed

theorem Narrows.within (h : Narrows inside refers) (hdocument : document.RefersIn (· ∈ pool))
    {a b : List String × Value} (hstep : Goes document inside refers a b) (ha : Within pool a) :
    Within pool b := by
  cases hstep with
  | inside hin => exact ⟨ha.nodup, ha.followed, fun r hr => ha.schema r (h.references hin hr)⟩
  | through hr hnew htarget =>
      exact ⟨List.nodup_cons.mpr ⟨hnew, ha.nodup⟩,
        List.cons_subset.mpr ⟨ha.schema _ (h.refers hr), ha.followed⟩,
        refersIn_resolve hdocument htarget⟩

/-- Every way ends, as each move leaves fewer references to follow or a smaller schema. -/
theorem Narrows.acc_goes (h : Narrows inside refers) (hdocument : document.RefersIn (· ∈ pool)) :
    ∀ state, Within pool state → Acc (fun b a => Goes document inside refers a b) state
  | (followed, schema), hwithin => by
      refine .intro _ fun next hnext => ?_
      have hnext' : Within pool next := h.within hdocument hnext hwithin
      match next, hnext with
      | _, .inside hin =>
          have hsmaller := h.smaller hin
          exact h.acc_goes hdocument _ hnext'
      | _, @Goes.through _ _ _ _ _ target r _ _ _ =>
          have hfewer : (r :: followed).length ≤ pool.length := hnext'.length_le
          exact h.acc_goes hdocument (r :: followed, target) hnext'
termination_by state => (pool.length - state.1.length, sizeOf state.2)
decreasing_by
  · exact Prod.Lex.right _ hsmaller
  · rw [List.length_cons] at hfewer
    exact Prod.Lex.left _ _ (by rw [List.length_cons]; omega)

/-- What holds of a schema if it holds wherever a way goes on to from it holds everywhere. -/
theorem Narrows.induction (h : Narrows inside refers) (hdocument : document.RefersIn (· ∈ pool))
    {motive : List String × Value → Prop}
    (step : ∀ state, Within pool state →
      (∀ next, Goes document inside refers state next → motive next) → motive state)
    {state : List String × Value} (hwithin : Within pool state) : motive state := by
  have hacc := h.acc_goes hdocument state hwithin
  induction hacc with
  | intro state _ ih =>
      exact step state hwithin fun next hnext => ih next hnext (h.within hdocument hnext hwithin)

/-- The references of a document and of a schema are where all that is followed comes from. -/
theorem refersIn_start (document schema : Value) :
    document.RefersIn (· ∈ document.references ++ schema.references) :=
  fun _ hr => List.mem_append_left _ hr

/-- No way from a schema, on which nothing has been followed yet, goes on for ever. -/
theorem Narrows.not_endless (h : Narrows inside refers) (document schema : Value) :
    ¬Endless (Goes document inside refers) ([], schema) :=
  acc_iff_not_endless.mp <|
    h.acc_goes (refersIn_start document schema) _ (.start document schema)

end Document

end Typewright
