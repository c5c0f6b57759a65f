/-
# The paths of generated files

Each data type and each model has a file at a path of its own name, each model one more for its
boundary type (`paths_of_artifacts`).  Files are only given where no two of their paths are the same
in lower case (`nodup_of_checkPaths`); so the names of types and models differ even then.
-/
import Typewright.Emission.Artifacts

namespace Typewright

/-- The names of the types of metadata: data types, then models. -/
def Metadata.names (m : Metadata) : List String := m.dataTypes.map (·.name) ++ m.models.map (·.name)

namespace Emission

variable {l : Language} {o : Options} {m : Metadata} {all : List Artifact}

/-! ## The check of paths -/

theorem checkPaths_ok {seen : List (String × String)} (h : checkPaths l seen all = .ok ()) :
    (all.map pathKey).Nodup ∧ ∀ a ∈ all, seen.lookup (pathKey a) = none := by
  induction all generalizing seen with
  | nil => exact ⟨List.nodup_nil, fun _ ha => absurd ha List.not_mem_nil⟩
  | cons a r ih =>
      rw [checkPaths] at h
      split at h
      · exact nomatch h
      · rename_i hfree
        obtain ⟨hnodup, hrest⟩ := ih h
        have hnew : ∀ b ∈ r, pathKey b ≠ pathKey a ∧ seen.lookup (pathKey b) = none := by
          intro b hb
          have hlookup := hrest b hb
          rw [List.lookup_cons] at hlookup
          split at hlookup
          · exact nomatch hlookup
          · rename_i hne
            exact ⟨by simpa using hne, hlookup⟩
        refine ⟨List.nodup_cons.mpr ⟨fun hmem => ?_, hnodup⟩, ?_⟩
        · obtain ⟨b, hb, heq⟩ := List.mem_map.mp hmem
          exact (hnew b hb).1 heq
        · exact List.forall_mem_cons.mpr ⟨hfree, fun b hb => (hnew b hb).2⟩

/-- Files that pass the check have paths that differ even in lower case. -/
theorem nodup_of_checkPaths (h : checkPaths l [] all = .ok ()) :
    (all.map fun a => Text.lower a.path).Nodup :=
  (checkPaths_ok h).1

/-- Files whose paths differ even in lower case pass the check. -/
theorem checkPaths_of_nodup {seen : List (String × String)} (h : (all.map pathKey).Nodup)
    (hseen : ∀ a ∈ all, seen.lookup (pathKey a) = none) : checkPaths l seen all = .ok () := by
  induction all generalizing seen with
  | nil => rfl
  | cons a r ih =>
      obtain ⟨hfree, hrest⟩ := List.forall_mem_cons.mp hseen
      obtain ⟨hnew, hnodup⟩ := List.nodup_cons.mp h
      rw [checkPaths, hfree]
      refine ih hnodup fun b hb => ?_
      have hne : pathKey b ≠ pathKey a := fun heq => hnew (heq ▸ List.mem_map_of_mem hb)
      rw [List.lookup_cons, beq_false_of_ne hne]
      exact hrest b hb

/-- The check of paths fails by reporting two files with one path. -/
theorem checkPaths_error {seen : List (String × String)} {x : EmissionFailure}
    (h : checkPaths l seen all = .error x) :
    ∃ first, ∃ a ∈ all, x = .problem ⟨.samePath first a.name a.path, a.name, l⟩ := by
  induction all generalizing seen with
  | nil => cases h
  | cons a r ih =>
      rw [checkPaths] at h
      cases hfree : seen.lookup (pathKey a) with
      | none =>
          rw [hfree] at h
          obtain ⟨first, b, hb, hx⟩ := ih h
          exact ⟨first, b, List.mem_cons_of_mem _ hb, hx⟩
      | some first =>
          rw [hfree] at h
          cases h
          exact ⟨first, a, List.mem_cons_self, rfl⟩

/-! ## The paths of each sort of file -/

theorem of_bind_eq_ok {α β ε : Type} {x : Except ε α} {f : α → Except ε β} {b : β}
    (h : x >>= f = .ok b) : ∃ a, x = .ok a ∧ f a = .ok b := by
  cases x with
  | error e => exact nomatch h
  | ok a => exact ⟨a, rfl, h⟩

/-- A result that is seen to satisfy something is one. -/
theorem exists_ok_of_any {α ε : Type} {x : Except ε α} {p : α → Bool}
    (h : x.toOption.any p = true) : ∃ a, x = .ok a ∧ p a = true := by
  cases x with
  | error e => exact nomatch h
  | ok a => exact ⟨a, rfl, h⟩

/-- What is known of each value that a list is mapped to is known of all of them. -/
theorem map_eq_of_mapM {α β γ ε : Type} {f : α → Except ε β} {p : β → γ} {q : α → γ}
    (hf : ∀ {x y}, f x = .ok y → p y = q x) :
    ∀ {xs : List α} {ys : List β}, xs.mapM f = .ok ys → ys.map p = xs.map q
  | [], ys, h => by
      cases h
      rfl
  | x :: xs, ys, h => by
      rw [List.mapM_cons] at h
      obtain ⟨y, hy, h⟩ := of_bind_eq_ok h
      obtain ⟨zs, hzs, h⟩ := of_bind_eq_ok h
      cases h
      rw [List.map_cons, List.map_cons, hf hy, map_eq_of_mapM hf hzs]

theorem primitive_path {t : DataType} {a : Artifact} (h : primitive l o t = .ok a) :
    (a.name, a.path) = (t.name, pathOf l t.name) := by
  unfold primitive at h
  split at h
  · exact nomatch h
  · cases l with
    | csharp =>
        obtain ⟨lines, -, h⟩ := of_bind_eq_ok h
        cases h
        rfl
    | python =>
        obtain ⟨lines, -, h⟩ := of_bind_eq_ok h
        cases h
        rfl

theorem model_path {x : Model} {a : Artifact} (h : model l o x = .ok a) :
    (a.name, a.path) = (x.name, pathOf l x.name) := by
  cases l with
  | csharp =>
      obtain ⟨lines, -, h⟩ := of_bind_eq_ok h
      cases h
      rfl
  | python =>
      cases h
      rfl

theorem dto_path {x : Model} {a : Artifact} (h : dto l o x = .ok a) :
    (a.name, a.path) = ("DTO." ++ x.name, dtoPathOf l x.name) := by
  cases l with
  | csharp =>
      obtain ⟨lines, -, h⟩ := of_bind_eq_ok h
      cases h
      rfl
  | python =>
      obtain ⟨lines, -, h⟩ := of_bind_eq_ok h
      cases h
      rfl

/-- The files of metadata, by name and path: one for each data type and for each model, one more for
each model, and those that make packages; no two of them have the same path in lower case. -/
theorem paths_of_artifacts (h : artifacts l o m = .ok all) :
    (all.map fun a => (a.name, a.path)) =
      m.names.map (fun n => (n, pathOf l n)) ++
        m.models.map (fun x => ("DTO." ++ x.name, dtoPathOf l x.name)) ++
        (packages l o m).map (fun a => (a.name, a.path)) ∧
      (all.map fun a => Text.lower a.path).Nodup := by
  obtain ⟨primitives, hprimitives, h⟩ := of_bind_eq_ok h
  obtain ⟨models, hmodels, h⟩ := of_bind_eq_ok h
  obtain ⟨dtos, hdtos, h⟩ := of_bind_eq_ok h
  obtain ⟨_, hcheck, h⟩ := of_bind_eq_ok h
  cases h
  refine ⟨?_, nodup_of_checkPaths hcheck⟩
  simp only [List.map_append, Metadata.names, List.map_map, map_eq_of_mapM primitive_path hprimitives,
    map_eq_of_mapM model_path hmodels, map_eq_of_mapM dto_path hdtos]
  rfl

/-- Each data type has its file among those that are given. -/
theorem exists_file_of_artifacts {t : DataType} (h : artifacts l o m = .ok all)
    (ht : t ∈ m.dataTypes) : ∃ a ∈ all, primitive l o t = .ok a := by
  obtain ⟨primitives, hprimitives, h⟩ := of_bind_eq_ok h
  obtain ⟨models, -, h⟩ := of_bind_eq_ok h
  obtain ⟨dtos, -, h⟩ := of_bind_eq_ok h
  obtain ⟨_, -, h⟩ := of_bind_eq_ok h
  cases h
  have hfiles : primitives.map Except.ok = m.dataTypes.map (primitive l o) :=
    map_eq_of_mapM (fun h => h.symm) hprimitives
  obtain ⟨a, ha, hfile⟩ := List.mem_map.mp (hfiles ▸ List.mem_map_of_mem ht)
  refine ⟨a, ?_, hfile.symm⟩
  exact List.mem_append_left _ (List.mem_append_left _ (List.mem_append_left _ ha))

/-- The names of the types that files are given for differ, even in the lower case of their paths. -/
theorem nodup_of_artifacts (h : artifacts l o m = .ok all) :
    (m.names.map fun n => Text.lower (pathOf l n)).Nodup := by
  obtain ⟨hpaths, hnodup⟩ := paths_of_artifacts h
  have hlower := congrArg (List.map fun p => Text.lower p.2) hpaths
  rw [List.map_map, List.append_assoc, List.map_append, List.map_map] at hlower
  have hall : (all.map fun a => Text.lower a.path).Nodup := hnodup
  exact (List.nodup_append.mp (hlower ▸ hall)).1

end Emission

end Typewright
