/-
# Every file is written below the output directory

A file is written at its path below the output directory, unless that path starts at a root or has double
dots among its names.  It may have slashes and dots in it, if the name of a type has them; but it always
ends in a name with the extension of the language, so it is never the output directory itself
(`below_of_artifacts`).

What a run writes is seen on a host that keeps a record of it (`Recorder`).  Keeping the record changes
neither the result nor the world (`records`), and every path that gets into it is below the output
directory.  Nothing is asked of the refiner: any function on metadata may stand in its place.
-/
import Typewright.Proofs.Emission.Apart
import Typewright.Proofs.Pipeline.Steps

namespace Typewright

/-! ## Paths below a directory -/

/-- A path that starts with the names of a directory, goes on with at least one more, and does not lead
back with any of these. -/
structure Files.Path.Below (directory p : Files.Path) : Prop where
  root : p.root = directory.root
  names : ∃ rest, p.names = directory.names ++ rest ∧ rest ≠ [] ∧ ".." ∉ rest

/-- The paths that an order may have files written at. -/
def Order.Target (o : Order) (p : Files.Path) : Prop :=
  ∃ directory, o.destination = some directory ∧ (Files.Path.ofText directory).Below p

namespace Emission

/-- A generated file is written below the output directory, if it is not refused. -/
theorem below_of_artifacts {l : Language} {o : Options} {m : Metadata} {all : List Artifact}
    {a : Artifact} {directory p : Files.Path} (h : artifacts l o m = .ok all) (ha : a ∈ all)
    (hp : pathBelow? directory a.path = some p) : directory.Below p := by
  obtain ⟨rfl, hdots⟩ := pathBelow?_eq_some hp
  obtain ⟨d, n, hpath, -⟩ := path_of_artifacts h ha
  refine ⟨rfl, namesBelow a, rfl, ?_, hdots⟩
  rw [namesBelow, hpath, namesOf_filePath]
  exact List.append_ne_nil_of_right_ne_nil _ (List.cons_ne_nil _ _)

end Emission

/-- A whole run goes with a relation that its steps go with, where files are written at the paths that the
order has them written at. -/
theorem Respects.run {m n : Type → Type} [Monad m] [Host m] [Monad n] [Host n] [LawfulMonad m]
    [LawfulMonad n] {R : ∀ {α : Type}, m α → n α → Prop} {o : Order}
    (h : Respects m n o.Target R) (refine : Language → Metadata → Metadata) :
    R (Pipeline.runWith refine o : m _) (Pipeline.runWith refine o : n _) := by
  unfold Pipeline.runWith
  cases Language.get o.language with
  | error f => exact h.pure _
  | ok l =>
      refine h.bind (h.note _) fun _ => h.bind (h.load o.source) fun loaded => ?_
      cases loaded with
      | error f => exact h.pure _
      | ok document =>
          refine h.generate_bind (fun f => h.pure _) fun product metadata hfiles => ?_
          cases hdestination : o.destination with
          | none => exact h.pure _
          | some directory =>
              refine h.bind (h.writeAll fun a ha p hp => ?_) fun written => ?_
              · exact ⟨directory, hdestination, Emission.below_of_artifacts hfiles ha hp⟩
              · cases written with
                | error f => exact h.pure _
                | ok paths => exact h.bind (h.note _) fun _ => h.pure _

/-! ## A record of what is written -/

/-- Work on a world that keeps a record of the paths at which files are written, whether that succeeds or
not. -/
abbrev Recorder := StateT (List Files.Path) Session

instance : Host Recorder where
  read p := StateT.lift (Host.read p)
  write p content := do
    modify (· ++ [p])
    StateT.lift (Host.write p content)
  fetch address := StateT.lift (Host.fetch address)
  note n := StateT.lift (Host.note n)

/-- Work that keeps a record comes to what the same work without a record does, and adds some paths to the
record. -/
def Records (allowed : Files.Path → Prop) {α : Type} (x : Recorder α) (y : Session α) : Prop :=
  ∀ log w, ∃ paths, (∀ p ∈ paths, allowed p) ∧
    (x.run log).run w = (((y.run w).1, log ++ paths), (y.run w).2)

/-- Each step adds to the record the paths at which it writes files. -/
theorem records (allowed : Files.Path → Prop) :
    Respects Recorder Session allowed (Records allowed) where
  pure a log w := ⟨[], by simp, by rw [List.append_nil]; rfl⟩
  bind {α β x y f g} hx hf log w := by
    obtain ⟨paths, hpaths, hrun⟩ := hx log w
    obtain ⟨later, hlater, hrest⟩ := hf (y.run w).1 (log ++ paths) (y.run w).2
    refine ⟨paths ++ later, List.forall_mem_append.mpr ⟨hpaths, hlater⟩, ?_⟩
    calc ((x >>= f).run log).run w
        = ((f ((x.run log).run w).1.1).run ((x.run log).run w).1.2).run ((x.run log).run w).2 := rfl
      _ = ((f (y.run w).1).run (log ++ paths)).run (y.run w).2 := by rw [hrun]
      _ = ((((y >>= g).run w).1, log ++ (paths ++ later)), ((y >>= g).run w).2) := by
          rw [hrest, List.append_assoc]
          rfl
  read p log w := ⟨[], by simp, by rw [List.append_nil]; rfl⟩
  fetch address log w := ⟨[], by simp, by rw [List.append_nil]; rfl⟩
  note notice log w := ⟨[], by simp, by rw [List.append_nil]; rfl⟩
  write {p} content hp log w := ⟨[p], by simpa using hp, rfl⟩

namespace Pipeline

/-- Whatever the document, the refiner, the options and the output directory are, a run writes all its
files at paths that go on from the names of the output directory, and do not lead back. The record that
shows this is kept beside the run and changes nothing in it. -/
theorem run_writes_below (refine : Language → Metadata → Metadata) (o : Order) (w : World) :
    let recorded := ((runWith refine o : Recorder _).run []).run w
    (recorded.1.1, recorded.2) = (runWith refine o : Session _).run w ∧
      ∀ p ∈ recorded.1.2, o.Target p := by
  intro recorded
  obtain ⟨paths, hpaths, hrun⟩ := (records o.Target).run refine [] w
  rw [List.nil_append] at hrun
  have hrecorded : recorded = _ := hrun
  rw [hrecorded]
  exact ⟨rfl, hpaths⟩

/-- An order for a document with a type whose name has slashes and a dot in it, and nothing to make
another name from. -/
def dottedOrder : Order where
  source := .text "api.json" <|
    "\x7b\"openapi\": \"3.0.0\", \"info\": \x7b\"title\": \"T\", \"version\": \"1\"\x7d, " ++
    "\"components\": \x7b\"schemas\": \x7b" ++
    "\"-/.//-\": \x7b\"type\": \"string\", \"minLength\": 1\x7d\x7d\x7d\x7d"
  outputDirectory := some "out/here"

/-- Its file gets a directory of its own below the output directory. -/
theorem dottedOrder_below :
    (((runWith (fun l => l.style.refine) dottedOrder : Recorder _).run []).run {}).1.2 =
        [⟨.here, ["out", "here", "-", "-.cs"]⟩] ∧
      dottedOrder.Target ⟨.here, ["out", "here", "-", "-.cs"]⟩ := by
  have hseen : ((((runWith (fun l => l.style.refine) dottedOrder : Recorder _).run []).run {}).1.2 ==
      [⟨.here, ["out", "here", "-", "-.cs"]⟩]) = true := by decide +kernel
  have hrecord := beq_iff_eq.mp hseen
  refine ⟨hrecord, (run_writes_below (fun l => l.style.refine) dottedOrder {}).2 _ ?_⟩
  rw [hrecord]
  exact List.mem_singleton_self _

end Pipeline

end Typewright
