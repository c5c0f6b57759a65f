/-
# What is stored stays stored

Writing a file makes the directories that it is to be in and replaces what is stored at its place;
all else stays as it is (`Tree.Keeps`).  So the way to a place stays open when more files are written
(`walk_of_keeps`), and after a file has been written its path leads to a place with its content
(`write_spec`).  Names without double dots lead to the place that they are the end of
(`walk_eq_append`), so that different names lead to different places.
-/
import Typewright.Files.Tree

namespace Typewright.Files.Tree

variable {t t' t'' : Tree} {l l' m : Location} {e : Entry} {p : Path} {n : String}
  {ns ms : List String} {but but' : Location → Prop}

/-! ## Entries -/

theorem find?_of_ne_nil (h : l ≠ []) : t.find? l = t.entries.lookup l := by
  rw [find?, List.isEmpty_eq_false_iff.mpr h]
  rfl

theorem lookup_filter_ne {entries : List (Location × Entry)} (h : l' ≠ l) :
    (entries.filter (·.1 != l)).lookup l' = entries.lookup l' := by
  induction entries with
  | nil => rfl
  | cons x entries ih =>
      by_cases hx : x.1 = l
      · have hne : (l' == x.1) = false := beq_false_of_ne (hx ▸ h)
        rw [List.filter_cons_of_neg (by simp [hx]), ih, List.lookup_cons, hne]
      · rw [List.filter_cons_of_pos (by simp [hx]), List.lookup_cons, List.lookup_cons, ih]

theorem find?_put_self (h : l ≠ []) : (t.put l e).find? l = some e := by
  rw [find?_of_ne_nil h, put, List.lookup_cons, beq_self_eq_true]

theorem find?_put_of_ne (h : l' ≠ l) : (t.put l e).find? l' = t.find? l' := by
  cases l' with
  | nil => rfl
  | cons n ns =>
      rw [find?_of_ne_nil (List.cons_ne_nil n ns), find?_of_ne_nil (List.cons_ne_nil n ns), put,
        List.lookup_cons, beq_false_of_ne h, lookup_filter_ne h]

/-! ## Keeping what is stored -/

/-- All that is stored in a tree is stored in another one, but for the contents of files at some
places. -/
structure Keeps (but : Location → Prop) (t t' : Tree) : Prop where
  here : t'.here = t.here
  kept : ∀ l e, t.find? l = some e →
    t'.find? l = some e ∨ but l ∧ (∃ c, e = .file c) ∧ ∃ c, t'.find? l = some (.file c)

namespace Keeps

theorem refl (t : Tree) : Keeps but t t := ⟨rfl, fun _ _ h => .inl h⟩

theorem trans (h : Keeps but t t') (h' : Keeps but t' t'') : Keeps but t t'' := by
  refine ⟨h'.here.trans h.here, fun l e he => ?_⟩
  rcases h.kept l e he with he' | ⟨hbut, hfile, c, hc⟩
  · exact h'.kept l e he'
  · rcases h'.kept l _ hc with hc' | ⟨-, -, hc'⟩
    · exact .inr ⟨hbut, hfile, c, hc'⟩
    · exact .inr ⟨hbut, hfile, hc'⟩

theorem mono (h : Keeps but t t') (hbut : ∀ l, but l → but' l) : Keeps but' t t' :=
  ⟨h.here, fun l e he => (h.kept l e he).imp_right fun ⟨hl, hrest⟩ => ⟨hbut l hl, hrest⟩⟩

theorem directory (h : Keeps but t t') (hl : t.find? l = some .directory) :
    t'.find? l = some .directory := by
  rcases h.kept l _ hl with hl' | ⟨-, ⟨c, hc⟩, -⟩
  · exact hl'
  · cases hc

theorem isSome (h : Keeps but t t') (hl : (t.find? l).isSome = true) :
    (t'.find? l).isSome = true := by
  obtain ⟨e, he⟩ := Option.isSome_iff_exists.mp hl
  rcases h.kept l e he with he' | ⟨-, -, c, hc⟩
  · rw [he']
    rfl
  · rw [hc]
    rfl

/-- What is stored at a place that nothing was stored at takes nothing away. -/
theorem put_new (h : t.find? l = none) : Keeps but t (t.put l e) := by
  refine ⟨rfl, fun l' e' he' => .inl ?_⟩
  have hne : l' ≠ l := fun heq => by
    rw [heq, h] at he'
    cases he'
  rw [find?_put_of_ne hne, he']

/-- A file takes nothing away but the file at its place. -/
theorem put_file {c : List UInt8} (hl : l ≠ []) (h : t.find? l ≠ some .directory) :
    Keeps (· = l) t (t.put l (.file c)) := by
  refine ⟨rfl, fun l' e' he' => ?_⟩
  by_cases hne : l' = l
  · subst hne
    refine .inr ⟨rfl, ?_, c, find?_put_self hl⟩
    cases e' with
    | directory => exact absurd he' h
    | file c' => exact ⟨c', rfl⟩
  · exact .inl ((find?_put_of_ne hne).trans he')

end Keeps

/-! ## Following names -/

/-- The way from a place goes on from a directory: up by double dots, or to what is there. -/
theorem walk_cons : t.walk l (n :: ns) = .ok m ↔ t.find? l = some .directory ∧
    (n = ".." ∧ t.walk l.dropLast ns = .ok m ∨
      n ≠ ".." ∧ n.utf8ByteSize ≤ maxName ∧ (t.find? (l ++ [n])).isSome = true ∧
        t.walk (l ++ [n]) ns = .ok m) := by
  rw [walk]
  cases hl : t.find? l with
  | none => simp
  | some e =>
      cases e with
      | file c => simp
      | directory =>
          by_cases hn : n = ".."
          · simp [hn]
          · by_cases hlong : maxName < n.utf8ByteSize
            · simp [hn, hlong, Nat.not_le.mpr hlong]
            · cases hnext : t.find? (l ++ [n]) <;> simp [hn, hlong, Nat.le_of_not_lt hlong]

theorem walk_append : t.walk l (ns ++ ms) = .ok m ↔
    ∃ l', t.walk l ns = .ok l' ∧ t.walk l' ms = .ok m := by
  induction ns generalizing l with
  | nil => simp [walk]
  | cons n ns ih =>
      simp only [List.cons_append, walk_cons, ih]
      constructor
      · rintro ⟨hl, ⟨hn, l', h, h'⟩ | ⟨hn, hlong, hnext, l', h, h'⟩⟩
        · exact ⟨l', ⟨hl, .inl ⟨hn, h⟩⟩, h'⟩
        · exact ⟨l', ⟨hl, .inr ⟨hn, hlong, hnext, h⟩⟩, h'⟩
      · rintro ⟨l', ⟨hl, ⟨hn, h⟩ | ⟨hn, hlong, hnext, h⟩⟩, h'⟩
        · exact ⟨hl, .inl ⟨hn, l', h, h'⟩⟩
        · exact ⟨hl, .inr ⟨hn, hlong, hnext, l', h, h'⟩⟩

/-- The way to a place stays open. -/
theorem walk_of_keeps (hkeeps : Keeps but t t') (h : t.walk l ns = .ok m) : t'.walk l ns = .ok m := by
  induction ns generalizing l with
  | nil => exact h
  | cons n ns ih =>
      rw [walk_cons] at h ⊢
      obtain ⟨hl, ⟨hn, h⟩ | ⟨hn, hlong, hnext, h⟩⟩ := h
      · exact ⟨hkeeps.directory hl, .inl ⟨hn, ih h⟩⟩
      · exact ⟨hkeeps.directory hl, .inr ⟨hn, hlong, hkeeps.isSome hnext, ih h⟩⟩

/-- Names without double dots are the end of the place that they lead to. -/
theorem walk_eq_append (hdots : ".." ∉ ns) (h : t.walk l ns = .ok m) : m = l ++ ns := by
  induction ns generalizing l with
  | nil =>
      cases h
      exact (List.append_nil _).symm
  | cons n ns ih =>
      rw [List.mem_cons, not_or] at hdots
      obtain ⟨-, ⟨hn, -⟩ | ⟨-, -, -, h⟩⟩ := walk_cons.mp h
      · exact absurd hn.symm hdots.1
      · rw [ih hdots.2 h, List.append_assoc]
        rfl

/-- Where a path starts in a tree. -/
def start (t : Tree) (p : Path) : Location := if p.isAbsolute then [] else t.here

/-- A path leads to a place. -/
def Leads (t : Tree) (p : Path) (l : Location) : Prop := t.walk (t.start p) p.names = .ok l

theorem Leads.keeps (hkeeps : Keeps but t t') (h : t.Leads p l) : t'.Leads p l := by
  rw [Leads, start, hkeeps.here]
  exact walk_of_keeps hkeeps h

theorem leads_of_locate (h : t.locate p = .ok l) : t.Leads p l := by
  rw [locate] at h
  split at h
  · cases h
  · exact h

/-! ## Operations -/

theorem makeDirectory_keeps (h : t.makeDirectory p = .ok t') : Keeps but t t' := by
  rw [makeDirectory] at h
  split at h
  · cases h
  · split at h
    · cases hlocate : t.locate p <;> simp [hlocate, bind, Except.bind] at h
    · cases hplace : t.place p with
      | error o => simp [hplace, bind, Except.bind] at h
      | ok l =>
          cases hl : t.find? l with
          | some e => simp [hplace, hl, bind, Except.bind] at h
          | none =>
              simp only [hplace, hl, bind, Except.bind, Option.isSome_none, Bool.false_eq_true,
                if_false, Except.ok.injEq] at h
              exact h ▸ .put_new hl

theorem makeDirectories_keeps : ∀ (fuel : Nat) (t : Tree) (p : Path),
    Keeps but t (makeDirectories fuel t p).1 := by
  intro fuel
  induction fuel with
  | zero =>
      intro t p
      rw [makeDirectories]
      cases hmake : t.makeDirectory p with
      | ok t' => exact makeDirectory_keeps hmake
      | error o => cases o <;> exact .refl t
  | succ fuel ih =>
      intro t p
      rw [makeDirectories]
      cases hmake : t.makeDirectory p with
      | ok t' => exact makeDirectory_keeps hmake
      | error o =>
          cases o with
          | missing =>
              have hparent := ih t p.parent
              dsimp only
              rcases hrun : makeDirectories fuel t p.parent with ⟨t₁, _ | e⟩
              · rw [hrun] at hparent
                dsimp only
                cases hagain : t₁.makeDirectory p with
                | ok t₂ => exact hparent.trans (makeDirectory_keeps hagain)
                | error o => exact hparent
              · rw [hrun] at hparent
                exact hparent
          | _ => exact .refl t

theorem names_eq (h : p.names ≠ []) : p.names = p.parent.names ++ [p.name] := by
  rw [Path.name, List.getLast?_eq_some_getLast h, Option.getD_some]
  exact (List.dropLast_concat_getLast h).symm

/-- A file that replaces what is stored at its place is stored there. -/
theorem replaceFile_spec {content : List UInt8} (h : t.replaceFile p content = .ok t') :
    ∃ l, t'.Leads p l ∧ t'.find? l = some (.file content) ∧ Keeps (· = l) t t' := by
  rw [replaceFile] at h
  cases hlocate : t.locate p.parent with
  | error o => simp [hlocate, bind, Except.bind] at h
  | ok m =>
      simp only [hlocate, bind, Except.bind] at h
      cases hm : t.find? m with
      | none => simp [hm] at h
      | some e =>
          cases e with
          | file c => simp [hm] at h
          | directory =>
              simp only [hm] at h
              split at h
              · cases h
              · rename_i hlong
                split at h
                · cases h
                · rename_i hname
                  have hplace : m ++ [p.name] ≠ [] :=
                    List.append_ne_nil_of_right_ne_nil m (List.cons_ne_nil _ _)
                  have hput : t.find? (m ++ [p.name]) ≠ some .directory ∧
                      t' = t.put (m ++ [p.name]) (.file content) := by
                    split at h
                    · cases h
                    · rename_i hdirectory
                      exact ⟨hdirectory, (Except.ok.inj h).symm⟩
                  obtain ⟨hdirectory, rfl⟩ := hput
                  have hkeeps := Keeps.put_file (c := content) hplace hdirectory
                  have hstored := find?_put_self (t := t) (e := .file content) hplace
                  simp only [Bool.or_eq_true, List.isEmpty_iff, beq_iff_eq, not_or] at hname
                  refine ⟨m ++ [p.name], ?_, hstored, hkeeps⟩
                  have hparent := (leads_of_locate hlocate).keeps hkeeps
                  rw [Leads, names_eq hname.1, walk_append]
                  refine ⟨m, hparent, walk_cons.mpr ⟨hkeeps.directory hm, .inr ?_⟩⟩
                  exact ⟨hname.2, by omega, by rw [hstored]; rfl, rfl⟩

/-- After a file has been written its path leads to its content, and all else that was stored is
kept. -/
theorem write_spec {content : List UInt8} (h : t.write p content = (t', none)) :
    ∃ l, t'.Leads p l ∧ t'.find? l = some (.file content) ∧ Keeps (· = l) t t' := by
  rw [write] at h
  have hmade : ∀ l, Keeps (· = l) t (makeDirectories p.names.length t p.parent).1 :=
    fun l => makeDirectories_keeps p.names.length t p.parent
  rcases hrun : makeDirectories p.names.length t p.parent with ⟨t₁, _ | e⟩
  · rw [hrun] at h hmade
    dsimp only at h
    cases hreplace : t₁.replaceFile p content with
    | error o =>
        rw [hreplace] at h
        cases h
    | ok t₂ =>
        rw [hreplace] at h
        cases h
        obtain ⟨l, hleads, hstored, hkeeps⟩ := replaceFile_spec hreplace
        exact ⟨l, hleads, hstored, (hmade l).trans hkeeps⟩
  · rw [hrun] at h
    cases h

end Typewright.Files.Tree
