/-
# Work that notes warnings

Work on a part of a document gives something or fails, and notes warnings either way.  Mostly it
reads nothing of what was noted before and only adds to it (`NotesOnly`), so that it has an
`outcome` and `notes` of its own.  What such work comes to when it is done in turn is what its parts
come to (`NotesOnly.outcome_bind`).
-/
import Typewright.Schema.Facets

namespace Typewright

/-! ## Outcomes -/

section Outcome

variable {α β : Type}

/-- What work on a schema comes to. -/
def outcome (work : Noting α) : Except Failure α := (work.run.run []).1

/-- What work on a schema notes. -/
def notes (work : Noting α) : List Warning := (work.run.run []).2

theorem noting_run_bind (x : Noting α) (f : α → Noting β) (ws : List Warning) :
    (x >>= f).run.run ws =
      match x.run.run ws with
      | (.ok a, ws') => (f a).run.run ws'
      | (.error e, ws') => (.error e, ws') := by
  simp only [bind, ExceptT.bind, ExceptT.mk, ExceptT.run, StateT.bind, StateT.run]
  rcases x ws with ⟨_ | _, _⟩ <;> rfl

@[simp] theorem outcome_pure (a : α) : outcome (pure a : Noting α) = .ok a := rfl

@[simp] theorem outcome_throw (e : Failure) : outcome (throw e : Noting α) = .error e := rfl

theorem noting_run_map (f : α → β) (x : Noting α) (ws : List Warning) :
    (f <$> x).run.run ws = ((x.run.run ws).1.map f, (x.run.run ws).2) := by
  rw [map_eq_pure_bind, noting_run_bind]
  rcases x.run.run ws with ⟨_ | _, _⟩ <;> rfl

@[simp] theorem outcome_map (f : α → β) (x : Noting α) : outcome (f <$> x) = (outcome x).map f :=
  congrArg Prod.fst (noting_run_map f x [])

@[simp] theorem notes_map (f : α → β) (x : Noting α) : notes (f <$> x) = notes x :=
  congrArg Prod.snd (noting_run_map f x [])

end Outcome

/-! ## Work that notes warnings of one kind -/

/-- Work that notes warnings of one kind, whatever was noted before. -/
structure NotesOnly {α : Type} (Q : Warning → Prop) (work : Noting α) : Prop where
  run : ∀ ws, work.run.run ws = (outcome work, ws ++ notes work)
  own : ∀ w ∈ notes work, Q w

namespace NotesOnly

variable {α β : Type} {Q : Warning → Prop}

theorem of_run {x : Noting α} (r : Except Failure α) (ns : List Warning)
    (hrun : ∀ ws, x.run.run ws = (r, ws ++ ns)) (hown : ∀ w ∈ ns, Q w) : NotesOnly Q x := by
  have hr : outcome x = r := congrArg Prod.fst (hrun [])
  have hns : notes x = ns := congrArg Prod.snd (hrun [])
  exact ⟨fun ws => by rw [hrun, hr, hns], fun w hw => hown w (hns ▸ hw)⟩

theorem mono {Q' : Warning → Prop} {x : Noting α} (h : NotesOnly Q x) (hQ : ∀ w, Q w → Q' w) :
    NotesOnly Q' x :=
  ⟨h.run, fun w hw => hQ w (h.own w hw)⟩

protected theorem pure (a : α) : NotesOnly Q (pure a : Noting α) :=
  .of_run (.ok a) [] (fun ws => congrArg (Prod.mk _) (List.append_nil ws).symm)
    fun _ h => absurd h List.not_mem_nil

protected theorem throw (e : Failure) : NotesOnly Q (throw e : Noting α) :=
  .of_run (.error e) [] (fun ws => congrArg (Prod.mk _) (List.append_nil ws).symm)
    fun _ h => absurd h List.not_mem_nil

theorem note {w : Warning} (h : Q w) : NotesOnly Q (note w) :=
  .of_run (.ok ()) [w] (fun _ => rfl) fun _ hv => List.mem_singleton.mp hv ▸ h

theorem run_bind {x : Noting α} (hx : NotesOnly Q x) (f : α → Noting β) (ws : List Warning) :
    (x >>= f).run.run ws =
      match outcome x with
      | .ok a => (f a).run.run (ws ++ notes x)
      | .error e => (.error e, ws ++ notes x) := by
  rw [noting_run_bind, hx.run]
  cases outcome x <;> rfl

protected theorem bind {x : Noting α} {f : α → Noting β} (hx : NotesOnly Q x)
    (hf : ∀ a, NotesOnly Q (f a)) : NotesOnly Q (x >>= f) := by
  have hrun := hx.run_bind f
  cases hout : outcome x with
  | error e => exact .of_run (.error e) (notes x) (fun ws => by rw [hrun, hout]) hx.own
  | ok a =>
      refine .of_run (outcome (f a)) (notes x ++ notes (f a)) (fun ws => ?_) fun w hw => ?_
      · simp only [hrun, hout, (hf a).run, List.append_assoc]
      · exact (List.mem_append.mp hw).elim (hx.own w) ((hf a).own w)

/-- The outcomes of work and of what follows it, taken together. -/
theorem outcome_bind {x : Noting α} (hx : NotesOnly Q x) {f : α → Noting β}
    (hf : ∀ a, NotesOnly Q (f a)) :
    outcome (x >>= f) = outcome x >>= fun a => outcome (f a) := by
  rw [outcome, hx.run_bind]
  cases outcome x with
  | error e => rfl
  | ok a =>
      show ((f a).run.run ([] ++ notes x)).1 = outcome (f a)
      rw [(hf a).run]

theorem mapM {f : α → Noting β} (hf : ∀ a, NotesOnly Q (f a)) :
    ∀ as : List α, NotesOnly Q (as.mapM f)
  | [] => .pure []
  | a :: as => by
      rw [List.mapM_cons]
      exact (hf a).bind fun _ => (mapM hf as).bind fun _ => .pure _

theorem foldlM {f : β → α → Noting β} (hf : ∀ b a, NotesOnly Q (f b a)) :
    ∀ (as : List α) (b : β), NotesOnly Q (as.foldlM f b)
  | [], b => .pure b
  | a :: as, b => by
      rw [List.foldlM_cons]
      exact (hf b a).bind fun b' => foldlM hf as b'

theorem run_tryCatch {x : Noting α} (hx : NotesOnly Q x) (handle : Failure → Noting α)
    (ws : List Warning) :
    (tryCatch x handle).run.run ws =
      match outcome x with
      | .ok a => (.ok a, ws ++ notes x)
      | .error e => (handle e).run.run (ws ++ notes x) := by
  have hrun := hx.run ws
  simp only [ExceptT.run, StateT.run] at hrun
  simp only [tryCatch, tryCatchThe, MonadExceptOf.tryCatch, ExceptT.tryCatch, ExceptT.mk,
    ExceptT.run, StateT.run, bind, StateT.bind, hrun]
  cases outcome x <;> rfl

end NotesOnly

end Typewright
