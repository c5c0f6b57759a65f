/-
# What holds of a run because it holds of its steps

A run is written for any host, so two hosts do the same steps with it.  A relation between work on the
one and work on the other that goes with sequences and with each operation of a host goes with whole runs
(`Respects.run`), by the recursions of the code: following pages from one to the next, telling notices and
writing files in turn.  Of the operations only the writing of files depends on the path, and a run writes
at those paths alone that are left for files below its output directory (`Target`).

With one host on both sides this is an invariant of its work.
-/
import Typewright.Pipeline

namespace Typewright

/-- A relation between work on two hosts that goes with sequences and with every operation, as far as
files are written at some paths only. -/
structure Respects (m n : Type → Type) [Monad m] [Host m] [Monad n] [Host n]
    (allowed : Files.Path → Prop) (R : ∀ {α : Type}, m α → n α → Prop) : Prop where
  pure {α : Type} (a : α) : R (pure a : m α) (pure a : n α)
  bind {α β : Type} {x : m α} {y : n α} {f : α → m β} {g : α → n β} :
    R x y → (∀ a, R (f a) (g a)) → R (x >>= f) (y >>= g)
  read (p : Files.Path) : R (Host.read p : m _) (Host.read p : n _)
  fetch (address : String) : R (Host.fetch address : m _) (Host.fetch address : n _)
  note (notice : Notice) : R (Host.note notice : m _) (Host.note notice : n _)
  write {p : Files.Path} (content : List UInt8) : allowed p →
    R (Host.write p content : m _) (Host.write p content : n _)

namespace Respects

variable {m n : Type → Type} [Monad m] [Host m] [Monad n] [Host n] {allowed : Files.Path → Prop}
  {R : ∀ {α : Type}, m α → n α → Prop}

section Reading

variable (h : Respects m n allowed R)
include h

theorem noteAll (ns : List Notice) :
    R (Pipeline.noteAll ns : m _) (Pipeline.noteAll ns : n _) := by
  induction ns with
  | nil => exact h.pure ()
  | cons a ns ih => exact h.bind (h.note a) fun _ => ih

theorem fetchFrom (address : String) (moves : Nat) (here : Url) :
    R (Source.fetchFrom address moves here : m _) (Source.fetchFrom address moves here : n _) := by
  induction moves generalizing here with
  | zero =>
      rw [Source.fetchFrom, Source.fetchFrom]
      refine h.bind (h.fetch _) fun reply => ?_
      cases reply with
      | unreachable reason => exact h.pure _
      | page status body location =>
          dsimp only
          cases location.filter fun _ => Source.isElsewhere status <;> exact h.pure _
  | succ moves ih =>
      rw [Source.fetchFrom, Source.fetchFrom]
      refine h.bind (h.fetch _) fun reply => ?_
      cases reply with
      | unreachable reason => exact h.pure _
      | page status body location =>
          dsimp only
          cases location.filter fun _ => Source.isElsewhere status with
          | none => exact h.pure _
          | some l => exact ih _

theorem document (s : Source) :
    R (Source.load.document s : m _) (Source.load.document s : n _) := by
  cases s with
  | text name content => exact h.pure _
  | bytes name content => exact h.pure _
  | file path =>
      refine h.bind (h.read path) fun found => ?_
      rcases found with (e | f) | content <;> exact h.pure _
  | url address =>
      refine h.bind (h.fetchFrom address _ _) fun found => ?_
      cases found <;> exact h.pure _

theorem load (s : Source) : R (s.load : m _) (s.load : n _) := by
  refine h.bind (h.document s) fun found => ?_
  cases found with
  | error e => exact h.pure _
  | ok v => exact h.bind (h.note _) fun _ => h.pure _

/-- Work that goes on with generated files gets files that were generated from some metadata. -/
theorem generate_bind [LawfulMonad m] [LawfulMonad n] {document : Value} {l : Language} {o : Options}
    {refine : Metadata → Metadata} {β : Type} {f : Except RunFailure Product → m β}
    {g : Except RunFailure Product → n β} (herror : ∀ e, R (f (.error e)) (g (.error e)))
    (hok : ∀ p metadata, Emission.artifacts l o metadata = .ok p.artifacts →
      R (f (.ok p)) (g (.ok p))) :
    R (Pipeline.generate document l o refine >>= f) (Pipeline.generate document l o refine >>= g) := by
  unfold Pipeline.generate
  rw [bind_assoc, bind_assoc]
  refine h.bind (h.noteAll _) fun _ => ?_
  cases Extraction.ofDocument document true with
  | error e =>
      show R (Pure.pure (Except.error _) >>= f) (Pure.pure (Except.error _) >>= g)
      rw [pure_bind, pure_bind]
      exact herror _
  | ok e =>
      show R ((_ >>= _) >>= f) ((_ >>= _) >>= g)
      rw [bind_assoc, bind_assoc]
      refine h.bind (h.noteAll _) fun _ => ?_
      cases hartifacts : (Generation.refined l o refine e).artifacts with
      | error e =>
          rw [pure_bind, pure_bind]
          exact herror _
      | ok artifacts =>
          simp only [bind_assoc, pure_bind]
          exact h.bind (h.note _) fun _ => h.bind (h.note _) fun _ => hok _ _ hartifacts

theorem generate [LawfulMonad m] [LawfulMonad n] (document : Value) (l : Language) (o : Options)
    (refine : Metadata → Metadata) :
    R (Pipeline.generate document l o refine : m _) (Pipeline.generate document l o refine : n _) := by
  have hbind : R ((Pipeline.generate document l o refine : m _) >>= Pure.pure)
      ((Pipeline.generate document l o refine : n _) >>= Pure.pure) :=
    h.generate_bind (fun e => h.pure (Except.error e)) fun p _ _ => h.pure (Except.ok p)
  rwa [bind_pure, bind_pure] at hbind

end Reading

section Writing

variable {directory : Files.Path} {l : Language} {a : Artifact} {all : List Artifact}

theorem writeFile (h : Respects m n allowed R)
    (ha : ∀ p, Emission.pathBelow? directory a.path = some p → allowed p) :
    R (Emission.write directory l a : m _) (Emission.write directory l a : n _) := by
  unfold Emission.write
  cases hbelow : Emission.pathBelow? directory a.path with
  | none => exact h.pure _
  | some p =>
      refine h.bind (h.write _ (ha p hbelow)) fun done => ?_
      cases done with
      | error f => exact h.pure _
      | ok _ => exact h.bind (h.note _) fun _ => h.pure _

theorem writeAll (h : Respects m n allowed R)
    (hall : ∀ a ∈ all, ∀ p, Emission.pathBelow? directory a.path = some p → allowed p) :
    R (Emission.writeAll directory l all : m _) (Emission.writeAll directory l all : n _) := by
  induction all with
  | nil => exact h.pure _
  | cons a all ih =>
      obtain ⟨ha, hrest⟩ := List.forall_mem_cons.mp hall
      refine h.bind (h.writeFile ha) fun first => ?_
      cases first with
      | error f => exact h.pure _
      | ok p =>
          refine h.bind (ih hrest) fun rest => ?_
          cases rest <;> exact h.pure _

end Writing

end Respects

end Typewright
