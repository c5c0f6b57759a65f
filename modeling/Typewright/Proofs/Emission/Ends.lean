/-
# What emitting comes to

Work that emits code gives code, is refused with a problem, or stops at a value that cannot be
written (a fault).  For a part of it two conditions say which: when it gives code, and at which faults
it stops (`Ends`); in all other cases it ends in a problem.  There is a rule for each way in which the
parts are put together.  Work on a list stops at the first member at which it does not go on
(`Reaches`), so that one rule carries constraints, allowed values and data types alike (`Ends.mapM`).
-/
import Typewright.Emission.Error

namespace Typewright.Emission

/-! ## Reaching a member of a list -/

/-- A walk over a list passes some members and stops at the one after them. -/
def Reaches {α : Type} (passes stops : α → Prop) (xs : List α) : Prop :=
  ∃ before x after, xs = before ++ x :: after ∧ (∀ y ∈ before, passes y) ∧ stops x

section Reaches

variable {α : Type} {passes stops : α → Prop} {x : α} {xs : List α}

theorem not_reaches_nil : ¬ Reaches passes stops [] := by
  rintro ⟨before, x, after, h, -⟩
  exact List.append_ne_nil_of_right_ne_nil before (List.cons_ne_nil x after) h.symm

theorem reaches_cons :
    Reaches passes stops (x :: xs) ↔ stops x ∨ passes x ∧ Reaches passes stops xs := by
  constructor
  · rintro ⟨before, y, after, h, hbefore, hy⟩
    cases before with
    | nil =>
        cases h
        exact .inl hy
    | cons z before =>
        cases h
        exact .inr ⟨hbefore _ (List.mem_cons_self ..),
          before, y, after, rfl, fun u hu => hbefore u (List.mem_cons_of_mem _ hu), hy⟩
  · rintro (hx | ⟨hx, before, y, after, rfl, hbefore, hy⟩)
    · exact ⟨[], x, xs, rfl, fun _ h => absurd h List.not_mem_nil, hx⟩
    · exact ⟨x :: before, y, after, rfl, List.forall_mem_cons.mpr ⟨hx, hbefore⟩, hy⟩

/-- Where each member is passed or stops the walk, the walk stops unless it passes all of them. -/
theorem reaches_of_not_all (hstops : ∀ y ∈ xs, ¬ passes y → stops y) (h : ¬ ∀ y ∈ xs, passes y) :
    Reaches passes stops xs := by
  induction xs with
  | nil => exact absurd (fun _ hy => absurd hy List.not_mem_nil) h
  | cons x xs ih =>
      rw [reaches_cons]
      by_cases hx : passes x
      · refine .inr ⟨hx, ih (fun y hy => hstops y (List.mem_cons_of_mem _ hy)) fun hall => ?_⟩
        exact h (List.forall_mem_cons.mpr ⟨hx, hall⟩)
      · exact .inl (hstops x (List.mem_cons_self ..) hx)

end Reaches

/-! ## What a part of the work comes to -/

/-- A part of the work gives code exactly on one condition and stops exactly at some faults. -/
structure Ends {α : Type} (work : Except EmissionFailure α) (passes : Prop) (stops : Fault → Prop) :
    Prop where
  ok : (∃ a, work = .ok a) ↔ passes
  fault : ∀ f, work = .error (.fault f) ↔ stops f

namespace Ends

variable {α β : Type} {x : Except EmissionFailure α} {P Q : Prop} {S T : Fault → Prop}

theorem of_ok (a : α) : Ends (.ok a : Except EmissionFailure α) True fun _ => False :=
  ⟨by simp, by simp⟩

theorem of_problem (e : EmissionError) :
    Ends (.error (.problem e) : Except EmissionFailure α) False fun _ => False :=
  ⟨by simp, by simp⟩

theorem of_fault (f : Fault) :
    Ends (.error (.fault f) : Except EmissionFailure α) False (· = f) :=
  ⟨by simp, fun g => by simp [eq_comm]⟩

theorem congr {P' : Prop} {S' : Fault → Prop} (h : Ends x P S) (hP : P ↔ P')
    (hS : ∀ f, S f ↔ S' f) : Ends x P' S' :=
  ⟨h.ok.trans hP, fun f => (h.fault f).trans (hS f)⟩

protected theorem bind {g : α → Except EmissionFailure β} (hx : Ends x P S)
    (hg : ∀ a, x = .ok a → Ends (g a) Q T) :
    Ends (x >>= g) (P ∧ Q) fun f => S f ∨ P ∧ T f := by
  cases x with
  | error e =>
      have hP : ¬ P := fun h => by
        obtain ⟨a, ha⟩ := hx.ok.mpr h
        cases ha
      refine ⟨iff_of_false ?_ fun h => hP h.1, fun f => ?_⟩
      · rintro ⟨b, hb⟩
        cases hb
      · have hf := hx.fault f
        constructor
        · intro h
          exact .inl (hf.mp (congrArg Except.error (Except.error.inj h)))
        · rintro (h | h)
          · exact congrArg Except.error (Except.error.inj (hf.mpr h))
          · exact absurd h.1 hP
  | ok a =>
      have hP : P := hx.ok.mp ⟨a, rfl⟩
      have hS : ∀ f, ¬ S f := fun f h => by
        have hfault := (hx.fault f).mpr h
        cases hfault
      refine (hg a rfl).congr ⟨fun h => ⟨hP, h⟩, And.right⟩ fun f => ?_
      exact ⟨fun h => .inr ⟨hP, h⟩, fun h => (h.resolve_left (hS f)).2⟩

/-- Going on with work that always gives something changes neither condition. -/
theorem andThen {g : α → Except EmissionFailure β} (hx : Ends x P S)
    (hg : ∀ a, ∃ b, g a = .ok b) : Ends (x >>= g) P S := by
  refine (hx.bind (Q := True) (T := fun _ => False) fun a _ => ?_).congr
    (and_iff_left trivial) fun f => ?_
  · obtain ⟨b, hb⟩ := hg a
    exact hb ▸ .of_ok b
  · exact ⟨fun h => h.resolve_right And.right, .inl⟩

theorem map {g : α → β} (hx : Ends x P S) : Ends (x.map g) P S := by
  have h := hx.andThen (g := fun a => .ok (g a)) fun a => ⟨g a, rfl⟩
  cases x with
  | error e => exact h
  | ok a => exact h

/-- Work that is only done on a condition ends in a problem where this does not hold. -/
theorem guarded {e : EmissionError} (condition : Bool) (h : Ends x P S) :
    Ends (if condition then x else .error (.problem e)) (condition = true ∧ P)
      fun f => condition = true ∧ S f := by
  cases condition with
  | false => exact (of_problem e).congr (by simp) fun f => by simp
  | true => exact h.congr (by simp) fun f => by simp

/-- A list is mapped where each member is, and the first member that is not decides. -/
theorem mapM {passes : α → Prop} {stops : α → Fault → Prop} {g : α → Except EmissionFailure β}
    (hg : ∀ a, Ends (g a) (passes a) (stops a)) : ∀ as : List α,
      Ends (as.mapM g) (∀ a ∈ as, passes a) fun f => Reaches passes (stops · f) as
  | [] => (Ends.of_ok []).congr ⟨fun _ _ h => absurd h List.not_mem_nil, fun _ => trivial⟩
      fun _ => ⟨False.elim, not_reaches_nil⟩
  | a :: as => by
      rw [List.mapM_cons]
      refine ((hg a).bind fun b _ => (mapM hg as).andThen fun bs => ⟨b :: bs, rfl⟩).congr
        List.forall_mem_cons.symm fun f =>
          (@reaches_cons _ passes (stops · f) a as).symm

end Ends

/-- Work on a list that always gives something gives a list. -/
theorem exists_mapM {α β ε : Type} {g : α → Except ε β} (hg : ∀ a, ∃ b, g a = .ok b) :
    ∀ as : List α, ∃ bs, as.mapM g = .ok bs
  | [] => ⟨[], rfl⟩
  | a :: as => by
      obtain ⟨b, hb⟩ := hg a
      obtain ⟨bs, hbs⟩ := exists_mapM hg as
      exact ⟨b :: bs, by rw [List.mapM_cons, hb, hbs]; rfl⟩

end Typewright.Emission
