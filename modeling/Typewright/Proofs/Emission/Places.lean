/-
# The places of written files

A file that is written is stored at the place that its path below the output directory leads to, and
files that are written after it leave it there unless they have the same place
(`writeAll_placed`).  The places of files differ just if the names that their paths are made of do
(`nodup_places_iff`): the texts of the paths do not matter.
-/
import Mathlib.Data.List.Forall2
import Typewright.Proofs.Emission.Writing
import Typewright.Proofs.Files.Tree

namespace Typewright.Emission

open Files (Path Location Tree)

/-- The names below the output directory that the path of a file is made of. -/
def namesBelow (a : Artifact) : List String := Path.namesOf a.path.toList

/-- The path of a file below an output directory leads to a place. -/
def PlacedAt (directory : Path) (t : Tree) (a : Artifact) (place : Location) : Prop :=
  ∃ p, pathBelow? directory a.path = some p ∧ t.Leads p place

/-- A file is stored at the place that its path below an output directory leads to. -/
structure StoredAt (directory : Path) (t : Tree) (a : Artifact) (place : Location) : Prop where
  placed : PlacedAt directory t a place
  stored : t.find? place = some (.file a.content.toUTF8.toList)

variable {directory : Path} {l : Language} {a b : Artifact} {all : List Artifact} {w w' : World}
  {t t' : Tree} {place place' : Location} {places : List Location} {p : Path} {paths : List Path}
  {but : Location → Prop}

/-! ## Writing -/

theorem PlacedAt.keeps (hkeeps : Tree.Keeps but t t') (h : PlacedAt directory t a place) :
    PlacedAt directory t' a place := by
  obtain ⟨p, hp, hleads⟩ := h
  exact ⟨p, hp, hleads.keeps hkeeps⟩

/-- What is stored at a place stays there when other places are written. -/
theorem StoredAt.keeps (hkeeps : Tree.Keeps but t t') (hbut : ¬ but place)
    (h : StoredAt directory t a place) : StoredAt directory t' a place := by
  refine ⟨h.placed.keeps hkeeps, ?_⟩
  rcases hkeeps.kept place _ h.stored with hstored | ⟨hplace, -⟩
  · exact hstored
  · exact absurd hplace hbut

theorem worldWrite_ok {content : List UInt8} (h : w.write p content = (.ok (), w')) :
    w.files.write p content = (w'.files, none) := by
  rw [World.write] at h
  split at h
  · cases h
  · rcases hrun : w.files.write p content with ⟨files, _ | e⟩
    · rw [hrun] at h
      cases h
      rfl
    · rw [hrun] at h
      cases h

theorem write_stored (h : (write directory l a : Session _).run w = (.ok p, w')) :
    ∃ place, StoredAt directory w'.files a place ∧ Tree.Keeps (· = place) w.files w'.files := by
  rw [run_write] at h
  cases hbelow : pathBelow? directory a.path with
  | none =>
      rw [hbelow] at h
      cases h
  | some q =>
      rw [hbelow] at h
      dsimp only at h
      rcases hrun : w.write q a.content.toUTF8.toList with ⟨f | ⟨⟩, w₁⟩
      · rw [hrun] at h
        cases h
      · rw [hrun] at h
        cases h
        obtain ⟨place, hleads, hstored, hkeeps⟩ := Tree.write_spec (worldWrite_ok hrun)
        exact ⟨place, ⟨⟨_, hbelow, hleads⟩, hstored⟩, hkeeps⟩

/-- Files that have been written have places; where these differ, each file is stored at its own. -/
theorem writeAll_placed (h : (writeAll directory l all : Session _).run w = (.ok paths, w')) :
    ∃ places, List.Forall₂ (PlacedAt directory w'.files) all places ∧
      Tree.Keeps (· ∈ places) w.files w'.files ∧
      (places.Nodup → List.Forall₂ (StoredAt directory w'.files) all places) := by
  induction all generalizing w paths with
  | nil =>
      cases h
      exact ⟨[], .nil, .refl _, fun _ => .nil⟩
  | cons a all ih =>
      rw [run_writeAll_cons] at h
      rcases hfirst : (write directory l a : Session _).run w with ⟨f | p, w₁⟩
      · rw [hfirst] at h
        cases h
      · rw [hfirst] at h
        dsimp only at h
        rcases hrest : (writeAll directory l all : Session _).run w₁ with ⟨f | ps, w₂⟩
        · rw [hrest] at h
          cases h
        · rw [hrest] at h
          cases h
          obtain ⟨place, hstored, hkeeps⟩ := write_stored hfirst
          obtain ⟨places, hplaced, hkeeps', hall⟩ := ih hrest
          refine ⟨place :: places, .cons (hstored.placed.keeps hkeeps') hplaced, ?_, fun hnodup => ?_⟩
          · refine (hkeeps.mono fun _ hl => ?_).trans (hkeeps'.mono fun _ hl => ?_)
            · exact hl ▸ List.mem_cons_self
            · exact List.mem_cons_of_mem _ hl
          · obtain ⟨hnew, hnodup⟩ := List.nodup_cons.mp hnodup
            exact .cons (hstored.keeps hkeeps' hnew) (hall hnodup)

/-! ## Places and names -/

theorem pathBelow?_eq_some (h : pathBelow? directory a.path = some p) :
    p = directory.join (namesBelow a) ∧ ".." ∉ namesBelow a := by
  rw [pathBelow?] at h
  split at h
  · cases h
  · rename_i hclimbs
    cases h
    simp only [Path.climbs, Bool.or_eq_true, List.contains_iff_mem, not_or] at hclimbs
    exact ⟨rfl, hclimbs.2⟩

/-- Files have one place just if their paths are made of the same names. -/
theorem PlacedAt.eq_iff (ha : PlacedAt directory t a place) (hb : PlacedAt directory t b place') :
    namesBelow a = namesBelow b ↔ place = place' := by
  obtain ⟨p, hp, hleads⟩ := ha
  obtain ⟨q, hq, hleads'⟩ := hb
  obtain ⟨rfl, hdots⟩ := pathBelow?_eq_some hp
  obtain ⟨rfl, hdots'⟩ := pathBelow?_eq_some hq
  have hway : t.walk (t.start directory) (directory.names ++ namesBelow a) = .ok place := hleads
  have hway' : t.walk (t.start directory) (directory.names ++ namesBelow b) = .ok place' := hleads'
  constructor
  · intro heq
    rw [heq, hway'] at hway
    exact (Except.ok.inj hway).symm
  · -- both start with the way to the directory
    intro heq
    obtain ⟨base, hbase, hend⟩ := Tree.walk_append.mp hway
    obtain ⟨base', hbase', hend'⟩ := Tree.walk_append.mp hway'
    obtain rfl : base = base' := Except.ok.inj (hbase.symm.trans hbase')
    rw [Tree.walk_eq_append hdots hend, Tree.walk_eq_append hdots' hend'] at heq
    exact List.append_cancel_left heq

theorem mem_places_iff (ha : PlacedAt directory t a place)
    (h : List.Forall₂ (PlacedAt directory t) all places) :
    namesBelow a ∈ all.map namesBelow ↔ place ∈ places := by
  induction h with
  | nil => simp
  | cons hb _ ih => rw [List.map_cons, List.mem_cons, List.mem_cons, ih, ha.eq_iff hb]

/-- The places of files differ just if the names do that their paths are made of. -/
theorem nodup_places_iff (h : List.Forall₂ (PlacedAt directory t) all places) :
    (all.map namesBelow).Nodup ↔ places.Nodup := by
  induction h with
  | nil => simp
  | cons ha hrest ih =>
      rw [List.map_cons, List.nodup_cons, List.nodup_cons, ih, mem_places_iff ha hrest]

/-- Files that have been written are stored at different places just if the names differ that their
paths are made of. -/
theorem stored_apart_iff
    (h : (writeAll directory l all : Session _).run w = (.ok paths, w')) :
    (∃ places : List Location, places.Nodup ∧
      List.Forall₂ (StoredAt directory w'.files) all places) ↔ (all.map namesBelow).Nodup := by
  constructor
  · rintro ⟨places, hnodup, hstored⟩
    exact (nodup_places_iff (hstored.imp fun _ _ h => h.placed)).mpr hnodup
  · intro hnames
    obtain ⟨places, hplaced, -, hstored⟩ := writeAll_placed h
    have hnodup := (nodup_places_iff hplaced).mp hnames
    exact ⟨places, hnodup, hstored hnodup⟩

end Typewright.Emission
