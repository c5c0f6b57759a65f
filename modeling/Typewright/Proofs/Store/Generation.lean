/-
# What is generated is stored

The refined metadata of a document are registered before it is known whether files are given for them,
and an entry replaces another one of its name.  Where files are given, their paths differ, and with
them the names of the types and those of the models; so no entry of a document replaces another one of
it, and all of them are stored (`Generation.stores`).  What else is stored stays as it is, and types
and models of one name are apart.
-/
import Typewright.Proofs.Refinement.Renaming
import Typewright.Proofs.Store.History

namespace Typewright

namespace Store

variable {s : Store} {m : Metadata} {n : String}

theorem type?_register (s : Store) (m : Metadata) (n : String) :
    (s.register m).type? n = (Named.latest (·.name) m.dataTypes n).or (s.type? n) := by
  rw [register_eq]
  exact Named.lookup_putAll _ _ _ n

theorem model?_register (s : Store) (m : Metadata) (n : String) :
    (s.register m).model? n = (Named.latest (·.name) m.models n).or (s.model? n) := by
  rw [register_eq]
  exact Named.lookup_putAll _ _ _ n

/-- Of types with different names each is stored. -/
theorem type?_register_of_mem {t : DataType} (h : (m.dataTypes.map (·.name)).Nodup)
    (ht : t ∈ m.dataTypes) : (s.register m).type? t.name = some t := by
  rw [type?_register, Named.latest_of_mem h ht, Option.some_or]

/-- Of models with different names each is stored. -/
theorem model?_register_of_mem {x : Model} (h : (m.models.map (·.name)).Nodup)
    (hx : x ∈ m.models) : (s.register m).model? x.name = some x := by
  rw [model?_register, Named.latest_of_mem h hx, Option.some_or]

/-- Under the name of no registered type there is what there was before. -/
theorem type?_register_of_not_mem (h : n ∉ m.dataTypes.map (·.name)) :
    (s.register m).type? n = s.type? n := by
  rw [type?_register, Named.latest_of_not_mem h, Option.none_or]

/-- Under the name of no registered model there is what there was before. -/
theorem model?_register_of_not_mem (h : n ∉ m.models.map (·.name)) :
    (s.register m).model? n = s.model? n := by
  rw [model?_register, Named.latest_of_not_mem h, Option.none_or]

end Store

namespace Generation

variable {document : Value} {l : Language} {o : Options} {g : Generation} {files : List Artifact}

/-- Where files are given, the names of the types and those of the models are different. -/
theorem nodup_names_of_artifacts (hg : ofDocument document l o none = .ok g)
    (hfiles : g.artifacts = .ok files) :
    (g.metadata.dataTypes.map (·.name)).Nodup ∧ (g.metadata.models.map (·.name)).Nodup := by
  obtain ⟨-, -, hartifacts⟩ := ofDocument_ok hg
  have hpaths : (g.metadata.names.map fun n => Text.lower (Emission.pathOf l n)).Nodup :=
    Emission.nodup_of_artifacts (hartifacts ▸ hfiles)
  have hnames : (g.metadata.dataTypes.map (·.name) ++ g.metadata.models.map (·.name)).Nodup :=
    hpaths.of_map _
  exact ⟨(List.nodup_append.mp hnames).1, (List.nodup_append.mp hnames).2.1⟩

/-- Where files are given for a document, a store that its metadata are registered in has each of its
refined types and models under their names, and under every other name what it had before. -/
theorem stores (hg : ofDocument document l o none = .ok g) (hfiles : g.artifacts = .ok files)
    (s : Store) :
    (∀ t ∈ g.metadata.dataTypes, (g.registerIn s).type? t.name = some t) ∧
      (∀ x ∈ g.metadata.models, (g.registerIn s).model? x.name = some x) ∧
      (∀ n, n ∉ g.metadata.dataTypes.map (·.name) → (g.registerIn s).type? n = s.type? n) ∧
      ∀ n, n ∉ g.metadata.models.map (·.name) → (g.registerIn s).model? n = s.model? n := by
  obtain ⟨htypes, hmodels⟩ := nodup_names_of_artifacts hg hfiles
  exact ⟨fun t => Store.type?_register_of_mem htypes, fun x => Store.model?_register_of_mem hmodels,
    fun n => Store.type?_register_of_not_mem, fun n => Store.model?_register_of_not_mem⟩

/-- A store with an older type of a name that is registered again, and with others. -/
def olderStore : Store :=
  ⟨[("Kept", ⟨"Kept", .boolean, [], none, none, .null⟩),
      ("OrderCode", ⟨"OrderCode", .int32, [], none, none, .null⟩)],
    [("OrderCode", ⟨"OrderCode",
      [{ name := "code", dataType := ⟨"Kept", .boolean, [], none, none, .null⟩ }], .event, none,
      none⟩)]⟩

theorem orders_stored : ∃ g files, ofDocument orders .python {} none = .ok g ∧
    g.artifacts = .ok files ∧
    (∃ t, (g.registerIn olderStore).type? "OrderCode" = some t ∧ t.kind = .string) ∧
    (∃ x, (g.registerIn olderStore).model? "None_" = some x ∧ x.fields.length = 2) ∧
    (g.registerIn olderStore).type? "Kept" = olderStore.type? "Kept" ∧
    (g.registerIn olderStore).model? "OrderCode" = olderStore.model? "OrderCode" := by
  have hseen : (ofDocument orders .python {} none).toOption.any (fun g =>
      g.artifacts.toOption.any (fun _ => true) &&
        g.metadata.dataTypes.map (fun t => (t.name, t.kind)) == [("OrderCode", .string)] &&
        g.metadata.models.map (fun x => (x.name, x.fields.length)) == [("None_", 2)]) = true := by
    decide +kernel
  obtain ⟨g, hg, hseen⟩ := Emission.exists_ok_of_any hseen
  simp only [Bool.and_eq_true, beq_iff_eq] at hseen
  obtain ⟨⟨hfiles, htypes⟩, hmodels⟩ := hseen
  obtain ⟨files, hartifacts, -⟩ := Emission.exists_ok_of_any hfiles
  obtain ⟨htype, hmodel, htype', hmodel'⟩ := stores hg hartifacts olderStore
  obtain ⟨t, ht, hnames⟩ := List.map_eq_singleton_iff.mp htypes
  obtain ⟨x, hx, hnames'⟩ := List.map_eq_singleton_iff.mp hmodels
  rw [Prod.mk.injEq] at hnames hnames'
  rw [ht] at htype htype'
  rw [hx] at hmodel hmodel'
  refine ⟨g, files, hg, hartifacts, ⟨t, ?_, hnames.2⟩, ⟨x, ?_, hnames'.2⟩, ?_, ?_⟩
  · exact hnames.1 ▸ htype t List.mem_cons_self
  · exact hnames'.1 ▸ hmodel x List.mem_cons_self
  · exact htype' "Kept" (by simp [hnames.1])
  · exact hmodel' "OrderCode" (by simp [hnames'.1])

end Generation

end Typewright
