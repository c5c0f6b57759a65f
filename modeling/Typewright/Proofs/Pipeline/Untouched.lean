/-
# What a failed generation leaves behind

Everything before the writing of files leaves the files as they are (`KeepsFiles`): a language that is
not known, a document from which no code can be generated, two files with one path.  The writer
checks each path by itself, so a path that leads out of the output directory is only found after the
files before it have been written.  `StoppedWriting` describes that run in full, and
`generation_failure` says that it is the only way for a failed generation to leave anything.
-/
import Typewright.Proofs.Emission.Writing
import Typewright.Proofs.Pipeline.Steps

namespace Typewright

/-! ## Work that leaves the files as they are -/

/-- Work that leaves the files of any world as they are. -/
def KeepsFiles {α : Type} (work : Session α) : Prop := ∀ w, (work.run w).2.files = w.files

namespace KeepsFiles

variable {α β : Type}

protected theorem pure (a : α) : KeepsFiles (pure a) := fun _ => rfl

protected theorem bind {x : Session α} {f : α → Session β} (hx : KeepsFiles x)
    (hf : ∀ a, KeepsFiles (f a)) : KeepsFiles (x >>= f) := by
  intro w
  rw [Session.run_bind]
  exact (hf (x.run w).1 (x.run w).2).trans (hx w)

/-- No step but the writing of files changes any. -/
theorem respects : Respects Session Session (fun _ => False) fun x _ => KeepsFiles x where
  pure := .pure
  bind := .bind
  read _ := fun _ => rfl
  fetch _ := fun _ => rfl
  note _ := fun _ => rfl
  write _ hp := hp.elim

theorem load (s : Source) : KeepsFiles s.load := respects.load s

theorem generate (document : Value) (l : Language) (o : Options) (refine : Metadata → Metadata) :
    KeepsFiles (Pipeline.generate document l o refine) :=
  respects.generate document l o refine

end KeepsFiles

/-! ## Failed generation -/

/-- Whether a run failed because no code could be generated: for lack of a language, of code, or of
a place for it. -/
def RunFailure.isGeneration : RunFailure → Bool
  | .language (.unknown _) => true
  | .emission (.problem _) => true
  | .write (.outside _) => true
  | _ => false

namespace Pipeline

variable {o : Order} {w w' : World} {f : RunFailure}

/-- A run that has written some files when the path of the next one is refused: the files before it
are as they were generated, and what happened to the world since it was `w₁` is their writing. -/
inductive StoppedWriting (o : Order) (w : World) : RunFailure → World → Prop
  | intro {l : Language} {directory : String} {document : Value} {g : Generation}
      {before after : List Artifact} {a : Artifact} {paths : List Files.Path} {w₁ w' : World} :
      Language.get o.language = .ok l → o.destination = some directory →
      ((o.source.load : Session _).run (w.note (.reading o.source.name))).1 = .ok document →
      Generation.ofDocument document l o.options o.refiner = .ok g →
      g.artifacts = .ok (before ++ a :: after) → before ≠ [] →
      Emission.pathBelow? (.ofText directory) a.path = none →
      w₁.files = w.files →
      (Emission.writeAll (.ofText directory) l before : Session _).run w₁ = (.ok paths, w') →
      StoppedWriting o w (.write (.outside ⟨.outside a.path, a.name, l⟩)) w'

/-- What generation gives is that of the document, whatever is told about it. -/
theorem run_generate {document : Value} {l : Language} {p : Product}
    {refine : Metadata → Metadata} {options : Options}
    (h : (generate document l options refine : Session _).run w = (.ok p, w')) :
    ∃ g, (Extraction.ofDocument document true).map (Generation.refined l options refine) = .ok g ∧
      g.artifacts = .ok p.artifacts := by
  unfold generate at h
  rw [Session.run_bind] at h
  cases hg : (Extraction.ofDocument document true).map (Generation.refined l options refine) with
  | error e =>
      rw [hg] at h
      exact nomatch h
  | ok g =>
      rw [hg] at h
      dsimp only at h
      rw [Session.run_bind] at h
      cases hartifacts : g.artifacts with
      | error e =>
          rw [hartifacts] at h
          exact nomatch h
      | ok artifacts =>
          rw [hartifacts] at h
          cases h
          exact ⟨g, rfl, hartifacts⟩

/-- Where writing is refused, the files before the refused one have been written. -/
theorem run_write {l : Language} {p : Product} {directory : String} (hf : f.isGeneration = true)
    (h : (write directory l p : Session _).run w = (.error f, w')) :
    ∃ before a after paths, p.artifacts = before ++ a :: after ∧
      Emission.pathBelow? (.ofText directory) a.path = none ∧
      f = .write (.outside ⟨.outside a.path, a.name, l⟩) ∧
      (Emission.writeAll (.ofText directory) l before : Session _).run w = (.ok paths, w') := by
  unfold write at h
  rw [Session.run_bind] at h
  rcases hall : (Emission.writeAll (.ofText directory) l p.artifacts : Session _).run w
    with ⟨e | paths, w₁⟩
  · rw [hall] at h
    cases h
    cases e with
    | file e => exact nomatch hf
    | outside e =>
        obtain ⟨before, a, after, paths, hsplit, hbelow, rfl, hrun⟩ :=
          Emission.writeAll_refused hall
        exact ⟨before, a, after, paths, hsplit, hbelow, rfl, hrun⟩
  · rw [hall] at h
    exact nomatch h

theorem untouched_or_stopped (h : (run o : Session _).run w = (.error f, w'))
    (hf : f.isGeneration = true) : w'.files = w.files ∨ StoppedWriting o w f w' := by
  unfold run runWith at h
  cases hl : Language.get o.language with
  | error e =>
      rw [hl] at h
      cases h
      exact .inl rfl
  | ok l =>
      rw [hl] at h
      dsimp only at h
      rw [Session.run_bind, Session.run_note, Session.run_bind] at h
      have hloaded : ((o.source.load : Session _).run (w.note (.reading o.source.name))).2.files =
          w.files := KeepsFiles.load o.source _
      rcases hload : (o.source.load : Session _).run (w.note (.reading o.source.name))
        with ⟨e | document, w₁⟩
      · rw [hload] at h hloaded
        cases h
        exact .inl hloaded
      · rw [hload] at h hloaded
        dsimp only at h hloaded
        rw [Session.run_bind] at h
        have hgenerated := KeepsFiles.generate document l o.options
          (o.refiner.getD [l.style]).apply w₁
        rcases hgenerate : (generate document l o.options (o.refiner.getD [l.style]).apply :
          Session _).run w₁ with ⟨e | p, w₂⟩
        · rw [hgenerate] at h hgenerated
          cases h
          exact .inl (hgenerated.trans hloaded)
        · rw [hgenerate] at h hgenerated
          dsimp only at h hgenerated
          cases hdestination : o.destination with
          | none =>
              rw [hdestination] at h
              exact nomatch h
          | some directory =>
              rw [hdestination] at h
              obtain ⟨g, hg, hartifacts⟩ := run_generate hgenerate
              obtain ⟨before, a, after, paths, hsplit, hbelow, rfl, hrun⟩ := run_write hf h
              have hfiles : w₂.files = w.files := hgenerated.trans hloaded
              cases before with
              | nil =>
                  cases hrun
                  exact .inl hfiles
              | cons b before =>
                  exact .inr (.intro hl hdestination (congrArg Prod.fst hload) hg
                    (hsplit ▸ hartifacts) (List.cons_ne_nil b before) hbelow hfiles hrun)

/-- With the refiner of the language, a file is refused only for a name without a letter or a
digit. -/
theorem StoppedWriting.wordless (h : StoppedWriting o w f w') (hrefiner : o.refiner = none) :
    ∃ document e, ((o.source.load : Session _).run (w.note (.reading o.source.name))).1 =
        .ok document ∧
      Extraction.ofDocument document true = .ok e ∧
      ∃ n ∈ e.metadata.names, Name.wordChars n.toList = [] := by
  cases h with
  | @intro l directory document g before after a paths w₁ w' _ _ hload hg hfiles _ hbelow _ _ =>
      rw [hrefiner] at hg
      obtain ⟨hextraction, hmetadata, hartifacts⟩ := Generation.ofDocument_ok hg
      rw [hartifacts, hmetadata] at hfiles
      have hmem : a ∈ before ++ a :: after := List.mem_append_right _ List.mem_cons_self
      obtain ⟨n, hn, hwordless, -⟩ := Emission.wordless_of_refused hfiles hmem hbelow
      exact ⟨document, g.extraction, hload, hextraction, n, hn, hwordless⟩

/-- Where no code could be generated, the files are as they were, unless the writing of files had
begun when the path of one of them was refused. With the refiner of the language that takes a type
whose name has no letter and no digit. -/
theorem generation_failure (h : (run o : Session _).run w = (.error f, w'))
    (hf : f.isGeneration = true) :
    w'.files = w.files ∨ StoppedWriting o w f w' ∧ (o.refiner = none → ∃ document e,
      ((o.source.load : Session _).run (w.note (.reading o.source.name))).1 = .ok document ∧
      Extraction.ofDocument document true = .ok e ∧
      ∃ n ∈ e.metadata.names, Name.wordChars n.toList = []) :=
  (untouched_or_stopped h hf).imp_right fun hstopped => ⟨hstopped, hstopped.wordless⟩

/-- An order for a document with a type of an ordinary name and a type whose name is a slash. -/
def slashOrder : Order where
  source := .text "api.json" <|
    "\x7b\"openapi\": \"3.0.0\", \"info\": \x7b\"title\": \"T\", \"version\": \"1\"\x7d, " ++
    "\"components\": \x7b\"schemas\": \x7b" ++
    "\"Code\": \x7b\"type\": \"string\", \"minLength\": 1\x7d, " ++
    "\"/\": \x7b\"type\": \"string\", \"minLength\": 1\x7d\x7d\x7d\x7d"
  outputDirectory := some "out"

/-- The file of the ordinary name is there when the other one is refused. -/
theorem slashOrder_stopped : ∃ f w', (run slashOrder : Session _).run {} = (.error f, w') ∧
    f.isGeneration = true ∧
    w'.files.entries.map (·.1) = [["out", "Code.cs"], ["out"]] ∧
    StoppedWriting slashOrder {} f w' := by
  have hseen : (match (run slashOrder : Session _).run {} with
      | (.error f, w') => f.isGeneration &&
        w'.files.entries.map (·.1) == [["out", "Code.cs"], ["out"]]
      | (.ok _, _) => false) = true := by decide +kernel
  rcases hrun : (run slashOrder : Session _).run {} with ⟨f | p, w'⟩
  · rw [hrun] at hseen
    obtain ⟨hf, hfiles⟩ := Bool.and_eq_true_iff.mp hseen
    have hfiles := beq_iff_eq.mp hfiles
    refine ⟨f, w', rfl, hf, hfiles, ?_⟩
    rcases generation_failure hrun hf with huntouched | hstopped
    · rw [huntouched] at hfiles
      exact nomatch hfiles
    · exact hstopped.1
  · rw [hrun] at hseen
    exact nomatch hseen

end Pipeline

end Typewright
