/-
# Writing files in turn

Files are written one after the other, and each is refused by itself if its path could lead out of
the output directory.  So where one is refused, exactly those before it have been written
(`writeAll_refused`).  Refused are paths that start at a root or have double dots among their names
(`pathBelow?`); the paths of names with a letter or a digit are not, because a slash does not survive
the spelling of such a name (`pathBelow?_typeName`).
-/
import Typewright.Emission.Output
import Typewright.Proofs.Document.Reference
import Typewright.Proofs.Emission.Artifacts
import Typewright.Proofs.Refinement.Renaming

namespace Typewright

/-! ## Sessions -/

section Session

variable {α β : Type} {w : World}

theorem Session.run_pure (a : α) : (pure a : Session α).run w = (a, w) := rfl

theorem Session.run_bind (x : Session α) (f : α → Session β) :
    (x >>= f).run w = (f (x.run w).1).run (x.run w).2 := rfl

theorem Session.run_note (n : Notice) : (Host.note n : Session Unit).run w = ((), w.note n) := rfl

end Session

namespace Emission

/-! ## Files that are refused -/

section Write

variable {directory : Files.Path} {l : Language} {a : Artifact} {all : List Artifact}
  {w w' : World}

theorem run_write : (write directory l a : Session _).run w =
    match pathBelow? directory a.path with
    | none => (.error (.outside ⟨.outside a.path, a.name, l⟩), w)
    | some p =>
      match w.write p a.content.toUTF8.toList with
      | (.error f, w') => (.error (.file f), w')
      | (.ok (), w') => (.ok p, w'.note (.wrote p)) := by
  unfold write
  cases pathBelow? directory a.path with
  | none => rfl
  | some p =>
      have hwrite : (Host.write p a.content.toUTF8.toList : Session _).run w =
          w.write p a.content.toUTF8.toList := rfl
      dsimp only
      rw [Session.run_bind, hwrite]
      rcases w.write p a.content.toUTF8.toList with ⟨f | ⟨⟩, w'⟩ <;> rfl

theorem run_writeAll_cons : (writeAll directory l (a :: all) : Session _).run w =
    match (write directory l a : Session _).run w with
    | (.error f, w') => (.error f, w')
    | (.ok p, w') =>
      match (writeAll directory l all : Session _).run w' with
      | (.error f, w'') => (.error f, w'')
      | (.ok ps, w'') => (.ok (p :: ps), w'') := by
  rw [writeAll, Session.run_bind]
  rcases (write directory l a : Session _).run w with ⟨f | p, w'⟩
  · rfl
  · dsimp only
    rw [Session.run_bind]
    rcases (writeAll directory l all : Session _).run w' with ⟨f | ps, w''⟩ <;> rfl

/-- A file is refused before anything is done. -/
theorem write_refused {e : EmissionError}
    (h : (write directory l a : Session _).run w = (.error (.outside e), w')) :
    pathBelow? directory a.path = none ∧ e = ⟨.outside a.path, a.name, l⟩ ∧ w' = w := by
  rw [run_write] at h
  split at h
  · rename_i hbelow
    cases h
    exact ⟨hbelow, rfl, rfl⟩
  · split at h <;> exact nomatch h

/-- Where a file is refused, exactly the files before it have been written. -/
theorem writeAll_refused {e : EmissionError}
    (h : (writeAll directory l all : Session _).run w = (.error (.outside e), w')) :
    ∃ before a after paths, all = before ++ a :: after ∧
      pathBelow? directory a.path = none ∧ e = ⟨.outside a.path, a.name, l⟩ ∧
      (writeAll directory l before : Session _).run w = (.ok paths, w') := by
  induction all generalizing w with
  | nil => exact nomatch h
  | cons a all ih =>
      rw [run_writeAll_cons] at h
      rcases hfirst : (write directory l a : Session _).run w with ⟨f | p, w₁⟩
      · rw [hfirst] at h
        cases h
        obtain ⟨hbelow, he, rfl⟩ := write_refused hfirst
        exact ⟨[], a, all, [], rfl, hbelow, he, rfl⟩
      · rw [hfirst] at h
        dsimp only at h
        rcases hrest : (writeAll directory l all : Session _).run w₁ with ⟨f | ps, w₂⟩
        · rw [hrest] at h
          cases h
          obtain ⟨before, b, after, paths, rfl, hbelow, he, hrun⟩ := ih hrest
          refine ⟨a :: before, b, after, p :: paths, rfl, hbelow, he, ?_⟩
          rw [run_writeAll_cons, hfirst]
          dsimp only
          rw [hrun]
        · rw [hrest] at h
          exact nomatch h

end Write

/-! ## Paths that are not refused -/

section Paths

open Files (Path)

variable {directory : Path} {l : Language} {n : String} {d : Bool}

/-- The path of a file under a name; some files are those of boundary types. -/
def filePath (l : Language) (d : Bool) (n : String) : String :=
  if d then dtoPathOf l n else pathOf l n

theorem isAbsolute_ofText {s : List Char} (h : s.head? ≠ some '/') :
    (Path.ofText (String.ofList s)).isAbsolute = false := by
  have hroot : Path.rootOf s = .here := by
    unfold Path.rootOf
    split <;> simp_all
  simp [Path.isAbsolute, Path.ofText, hroot]

theorem climbs_ofText {s : List Char} (h : "..".toList ∉ Text.splitChar '/' s) :
    (Path.ofText (String.ofList s)).climbs = false := by
  simp only [Path.climbs, Path.ofText, Path.namesOf, String.toList_ofList,
    List.contains_eq_mem, decide_eq_false_iff_not]
  intro hmem
  obtain ⟨piece, hpiece, heq⟩ := List.mem_map.mp (List.mem_filter.mp hmem).1
  refine h ?_
  rw [← heq, String.toList_ofList]
  exact hpiece

theorem pathBelow?_isSome {s : List Char} (hhead : s.head? ≠ some '/')
    (hclimbs : "..".toList ∉ Text.splitChar '/' s) :
    pathBelow? directory (String.ofList s) ≠ none := by
  unfold pathBelow?
  simp [isAbsolute_ofText hhead, climbs_ofText hclimbs]

theorem toList_pathOf : (pathOf l n).toList = n.toList ++ '.' :: l.extension.toList := by
  simp [pathOf]

theorem toList_dtoPathOf : (dtoPathOf l n).toList = "DTO".toList ++ '/' :: (pathOf l n).toList := by
  simp [dtoPathOf]

theorem slash_not_mem_pathOf (h : '/' ∉ n.toList) : '/' ∉ (pathOf l n).toList := by
  rw [toList_pathOf]
  cases l <;> simpa [Language.extension] using h

theorem pathOf_ne_dots : "..".toList ≠ (pathOf l n).toList := by
  intro h
  have hlength := congrArg List.length h
  rw [toList_pathOf] at hlength
  cases l <;> simp [Language.extension] at hlength

theorem pathBelow?_pathOf (h : '/' ∉ n.toList) : pathBelow? directory (pathOf l n) ≠ none := by
  have hslash := slash_not_mem_pathOf (l := l) h
  rw [← String.ofList_toList (s := pathOf l n)]
  refine pathBelow?_isSome (fun hhead => hslash (List.mem_of_mem_head? hhead)) ?_
  rw [Document.splitChar_of_not_mem hslash, List.mem_singleton]
  exact pathOf_ne_dots

theorem pathBelow?_dtoPathOf (h : '/' ∉ n.toList) :
    pathBelow? directory (dtoPathOf l n) ≠ none := by
  rw [← String.ofList_toList (s := dtoPathOf l n), toList_dtoPathOf]
  refine pathBelow?_isSome (by simp) ?_
  rw [Document.splitChar_append (by decide),
    Document.splitChar_of_not_mem (slash_not_mem_pathOf h)]
  simp only [List.mem_cons, List.not_mem_nil, or_false, not_or]
  exact ⟨by decide, pathOf_ne_dots⟩

theorem pathBelow?_filePath (h : '/' ∉ n.toList) : pathBelow? directory (filePath l d n) ≠ none := by
  cases d with
  | false => exact pathBelow?_pathOf h
  | true => exact pathBelow?_dtoPathOf h

end Paths

/-! ## Names that lead to refused paths -/

section Names

variable {directory : Files.Path} {l : Language} {o : Options} {n : String}

/-- A name without a letter or a digit is the name of its type. -/
theorem typeName_wordless (h : Name.wordChars n.toList = []) : l.style.typeName n = n := by
  have hpascal : Name.pascal n = n := by
    rw [Name.pascal, Name.pascalChars_of_wordless h, String.ofList_toList]
  have hcase : l.style.typeCase n = n := by cases l <;> exact hpascal
  rw [Style.typeName, hcase]
  refine Style.avoid_of_not_mem fun hmem => ?_
  have hmem : n ∈ l.reservedTypes := by cases l <;> exact hmem
  obtain ⟨c, hc, hword⟩ := List.any_eq_true.mp (Language.reservedTypes_worded l n hmem)
  exact Text.stretches_ne_nil hc hword h

/-- No slash survives the spelling of a name with a letter or a digit. -/
theorem slash_not_mem_typeName (h : Name.wordChars n.toList ≠ []) :
    '/' ∉ (l.style.typeName n).toList := by
  have hpascal : '/' ∉ (Name.pascal n).toList := by
    rw [Name.pascal, String.toList_ofList]
    exact Name.IsPascal.not_mem (Name.isPascal_pascalChars h) (by decide) (by decide)
  have hcase : '/' ∉ (l.style.typeCase n).toList := by cases l <;> exact hpascal
  unfold Style.typeName Style.avoid
  split
  · simpa using hcase
  · exact hcase

theorem path_of_packages {m : Metadata} {a : Artifact} (ha : a ∈ packages l o m) :
    ∃ d, a.path = filePath l d "__init__" := by
  cases l with
  | csharp => exact absurd ha List.not_mem_nil
  | python =>
      unfold packages Python.packages at ha
      dsimp only at ha
      split at ha
      · exact absurd ha List.not_mem_nil
      · simp only [List.mem_cons, List.not_mem_nil, or_false] at ha
        rcases ha with rfl | rfl
        · have hpath : "__init__.py" = filePath .python false "__init__" := by decide
          exact ⟨false, hpath⟩
        · have hpath : "DTO/__init__.py" = filePath .python true "__init__" := by decide
          exact ⟨true, hpath⟩

/-- Generated files have the paths of the names of types, or make packages. -/
theorem path_of_artifacts {m : Metadata} {all : List Artifact} {a : Artifact}
    (h : artifacts l o m = .ok all) (ha : a ∈ all) :
    ∃ d n, a.path = filePath l d n ∧ (n = "__init__" ∨ n ∈ m.names) := by
  have hmem : (a.name, a.path) ∈ all.map fun a => (a.name, a.path) := List.mem_map_of_mem ha
  rw [(paths_of_artifacts h).1] at hmem
  rcases List.mem_append.mp hmem with hmem | hmem
  · rcases List.mem_append.mp hmem with hmem | hmem
    · obtain ⟨n, hn, heq⟩ := List.mem_map.mp hmem
      exact ⟨false, n, (Prod.mk.inj heq).2.symm, .inr hn⟩
    · obtain ⟨x, hx, heq⟩ := List.mem_map.mp hmem
      have hn : x.name ∈ m.names := List.mem_append_right _ (List.mem_map_of_mem hx)
      exact ⟨true, x.name, (Prod.mk.inj heq).2.symm, .inr hn⟩
  · obtain ⟨b, hb, heq⟩ := List.mem_map.mp hmem
    obtain ⟨d, hpath⟩ := path_of_packages hb
    exact ⟨d, _, (Prod.mk.inj heq).2.symm.trans hpath, .inl rfl⟩

/-- Files that are generated under refined names have the paths of these, or make packages. -/
theorem path_of_refined {m : Metadata} {all : List Artifact} {a : Artifact}
    (h : artifacts l o (l.style.refine m) = .ok all) (ha : a ∈ all) :
    ∃ d n, a.path = filePath l d n ∧ (n = "__init__" ∨ ∃ n' ∈ m.names, n = l.style.typeName n') := by
  obtain ⟨d, n, hpath, hn⟩ := path_of_artifacts h ha
  refine ⟨d, n, hpath, hn.imp_right fun hn => ?_⟩
  rw [Style.names_refine] at hn
  obtain ⟨n', hn', rfl⟩ := List.mem_map.mp hn
  exact ⟨n', hn', rfl⟩

/-- A file that is generated under refined names is refused only where a type has a name without a
letter or a digit. -/
theorem wordless_of_refused {m : Metadata} {all : List Artifact} {a : Artifact}
    (h : artifacts l o (l.style.refine m) = .ok all) (ha : a ∈ all)
    (hrefused : pathBelow? directory a.path = none) :
    ∃ n ∈ m.names, Name.wordChars n.toList = [] ∧ ∃ d, a.path = filePath l d n := by
  obtain ⟨d, n, hpath, hn⟩ := path_of_refined h ha
  have hslash : '/' ∈ n.toList := by
    by_contra hslash
    exact pathBelow?_filePath hslash (hpath ▸ hrefused)
  rcases hn with rfl | ⟨n', hn', rfl⟩
  · exact absurd hslash (by decide)
  · by_cases hword : Name.wordChars n'.toList = []
    · exact ⟨n', hn', hword, d, typeName_wordless hword ▸ hpath⟩
    · exact absurd hslash (slash_not_mem_typeName hword)

end Names

end Emission

end Typewright
