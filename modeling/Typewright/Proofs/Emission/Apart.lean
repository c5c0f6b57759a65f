/-
# When generated files overwrite each other

Two files are kept apart by the texts of their paths, and are written where the names lead that their
paths are made of.  A path ends in a stem with an extension, behind folders that are the other parts
of a name with slashes in it (`namesOf_pathOf`).  A name with a letter or a digit is spelled without
slashes, so its path says its names (`same_names`).  A name without any is left as it is, slashes and
dots included, and two of them can be made of the same names: exactly then a file is lost
(`Generation.written_apart_iff`).
-/
import Mathlib.Data.List.Nodup
import Typewright.Proofs.Emission.Places

namespace Typewright

/-! ## The pieces of a text -/

namespace Text

variable {sep : Char} {s e : List Char}

theorem mem_of_mem_splitChar {piece : List Char} {d : Char} :
    ∀ {s : List Char}, piece ∈ splitChar sep s → d ∈ piece → d ∈ s
  | [], h, hd => by
      rw [splitChar, List.mem_singleton] at h
      rw [h] at hd
      cases hd
  | c :: s, h, hd => by
      rw [splitChar] at h
      split at h
      · rcases List.mem_cons.mp h with rfl | h
        · cases hd
        · exact List.mem_cons_of_mem _ (mem_of_mem_splitChar h hd)
      · cases hs : splitChar sep s with
        | nil => exact absurd hs (Document.splitChar_ne_nil s)
        | cons first pieces =>
            rw [hs] at h
            rcases List.mem_cons.mp h with rfl | h
            · rcases List.mem_cons.mp hd with rfl | hd
              · exact List.mem_cons_self
              · exact List.mem_cons_of_mem _
                  (mem_of_mem_splitChar (hs ▸ List.mem_cons_self) hd)
            · exact List.mem_cons_of_mem _
                (mem_of_mem_splitChar (hs ▸ List.mem_cons_of_mem _ h) hd)

/-- What follows the last separator is followed by what follows the text. -/
theorem splitChar_append_end (he : sep ∉ e) : ∀ s : List Char, ∃ first last,
    splitChar sep s = first ++ [last] ∧ splitChar sep (s ++ e) = first ++ [last ++ e]
  | [] => ⟨[], [], rfl, Document.splitChar_of_not_mem he⟩
  | c :: s => by
      obtain ⟨first, last, hs, hse⟩ := splitChar_append_end he s
      rw [List.cons_append, splitChar, splitChar, hs, hse]
      by_cases hc : (c == sep) = true
      · rw [if_pos hc, if_pos hc]
        exact ⟨[] :: first, last, rfl, rfl⟩
      · rw [if_neg hc, if_neg hc]
        cases first with
        | nil => exact ⟨[], c :: last, rfl, rfl⟩
        | cons piece first => exact ⟨(c :: piece) :: first, last, rfl, rfl⟩

end Text

namespace Emission

open Files (Path Location)

/-! ## The names of a path -/

section Names

variable {l : Language} {n n' : String} {d d' : Bool}

/-- The folders that the slashes of a name make. -/
def folders (n : String) : List String :=
  ((Text.splitChar '/' n.toList).dropLast.map String.ofList).filter fun n => n != "" && n != "."

/-- What follows the last slash of a name. -/
def stem (n : String) : List Char := (Text.splitChar '/' n.toList).getLastD []

theorem slash_not_mem_extension : '/' ∉ '.' :: l.extension.toList := by
  cases l <;> decide

theorem stem_extension_ne (s : List Char) :
    String.ofList (s ++ '.' :: l.extension.toList) ≠ "" ∧
      String.ofList (s ++ '.' :: l.extension.toList) ≠ "." := by
  have hlength : 3 ≤ ('.' :: l.extension.toList).length := by cases l <;> decide
  constructor
  · intro h
    have h := congrArg (fun s => s.toList.length) h
    simp only [String.toList_ofList, List.length_append, String.toList_empty, List.length_nil] at h
    omega
  · intro h
    have h := congrArg (fun s => s.toList.length) h
    have hdot : ".".toList.length = 1 := rfl
    simp only [String.toList_ofList, List.length_append, hdot] at h
    omega

/-- A path is made of the folders of its name and of the stem with the extension. -/
theorem namesOf_pathOf : Path.namesOf (pathOf l n).toList =
    folders n ++ [String.ofList (stem n ++ '.' :: l.extension.toList)] := by
  obtain ⟨first, last, hname, hpath⟩ :=
    Text.splitChar_append_end (@slash_not_mem_extension l) n.toList
  have hstem : stem n = last := by rw [stem, hname, List.getLastD_concat]
  have hfolders : folders n = (first.map String.ofList).filter fun n => n != "" && n != "." := by
    rw [folders, hname, List.dropLast_concat]
  obtain ⟨hempty, hdot⟩ := @stem_extension_ne l last
  have hkept : (String.ofList (last ++ '.' :: l.extension.toList) != "" &&
      String.ofList (last ++ '.' :: l.extension.toList) != ".") = true := by
    rw [bne_iff_ne.mpr hempty, bne_iff_ne.mpr hdot, Bool.and_self]
  rw [Path.namesOf, toList_pathOf, hpath, hstem, hfolders, List.map_append, List.filter_append,
    List.map_singleton, List.filter_singleton, hkept, cond_true]

theorem namesOf_dtoPathOf : Path.namesOf (dtoPathOf l n).toList =
    "DTO" :: Path.namesOf (pathOf l n).toList := by
  rw [Path.namesOf, toList_dtoPathOf, Document.splitChar_append (by decide), List.map_cons,
    List.filter_cons_of_pos (by decide), Path.namesOf]
  rfl

theorem folders_of_noSlash (h : '/' ∉ n.toList) : folders n = [] := by
  rw [folders, Document.splitChar_of_not_mem h]
  rfl

theorem stem_of_noSlash (h : '/' ∉ n.toList) : stem n = n.toList := by
  rw [stem, Document.splitChar_of_not_mem h]
  rfl

theorem mem_of_mem_stem {c : Char} (h : c ∈ stem n) : c ∈ n.toList := by
  obtain ⟨first, last, hname, -⟩ := Text.splitChar_append_end (@List.not_mem_nil _ '/') n.toList
  rw [stem, hname, List.getLastD_concat] at h
  exact Text.mem_of_mem_splitChar (hname ▸ List.mem_append_right _ List.mem_cons_self) h

theorem mem_of_mem_folders {c : Char} {f : String} (hf : f ∈ folders n) (h : c ∈ f.toList) :
    c ∈ n.toList := by
  obtain ⟨piece, hpiece, rfl⟩ := List.mem_map.mp (List.mem_filter.mp hf).1
  rw [String.toList_ofList] at h
  exact Text.mem_of_mem_splitChar (List.dropLast_subset _ hpiece) h

/-! ## Which names a path says -/

/-- A name that is spelled without slashes, and has a letter or a digit. -/
structure Plain (n : String) : Prop where
  noSlash : '/' ∉ n.toList
  worded : ∃ c ∈ n.toList, Text.isWordChar c = true

/-- A name without a letter or a digit. -/
def Wordless (n : String) : Prop := Name.wordChars n.toList = []

instance : Decidable (Wordless n) := inferInstanceAs (Decidable (Name.wordChars n.toList = []))

theorem Wordless.not_word (h : Wordless n) {c : Char} (hc : c ∈ n.toList) :
    ¬ Text.isWordChar c = true :=
  fun hword => Text.stretches_ne_nil hc hword h

theorem namesOf_filePath : Path.namesOf (filePath l d n).toList =
    (if d then ["DTO"] else []) ++ folders n ++
      [String.ofList (stem n ++ '.' :: l.extension.toList)] := by
  cases d with
  | false => exact namesOf_pathOf
  | true =>
      have hpath : filePath l true n = dtoPathOf l n := rfl
      rw [hpath, namesOf_dtoPathOf, namesOf_pathOf]
      rfl

/-- No name has a folder that is called like that of the boundary types. -/
theorem dto_not_mem_folders (h : Plain n ∨ Wordless n) : "DTO" ∉ folders n := by
  intro hmem
  rcases h with h | h
  · rw [folders_of_noSlash h.noSlash] at hmem
    cases hmem
  · have hd : 'D' ∈ n.toList := mem_of_mem_folders hmem (by decide)
    exact h.not_word hd (by decide)

theorem Plain.not_wordless (h : Plain n) : ¬ Wordless n := by
  obtain ⟨c, hc, hword⟩ := h.worded
  exact fun hwordless => hwordless.not_word hc hword

theorem stem_ne (h : Plain n) (h' : Wordless n') : stem n ≠ stem n' := by
  intro heq
  obtain ⟨c, hc, hword⟩ := h.worded
  rw [← stem_of_noSlash h.noSlash, heq] at hc
  exact h'.not_word (mem_of_mem_stem hc) hword

/-- Paths that are made of the same names are the same, unless both are those of names without letters
and digits. -/
theorem same_names (h : Plain n ∨ Wordless n) (h' : Plain n' ∨ Wordless n')
    (heq : Path.namesOf (filePath l d n).toList = Path.namesOf (filePath l d' n').toList) :
    d = d' ∧ (n = n' ∨ Wordless n ∧ Wordless n' ∧
      Path.namesOf (pathOf l n).toList = Path.namesOf (pathOf l n').toList) := by
  rw [namesOf_filePath, namesOf_filePath] at heq
  obtain ⟨hbefore, hlast⟩ := List.append_inj' heq rfl
  have hstem : stem n = stem n' := by
    have hchars := congrArg String.toList (List.singleton_inj.mp hlast)
    rw [String.toList_ofList, String.toList_ofList] at hchars
    exact List.append_cancel_right hchars
  have hsame : d = d' ∧ folders n = folders n' := by
    have hdto := dto_not_mem_folders h
    have hdto' := dto_not_mem_folders h'
    cases d with
    | false =>
        cases d' with
        | false => exact ⟨rfl, hbefore⟩
        | true =>
            have hfolders : folders n = "DTO" :: folders n' := hbefore
            exact absurd (hfolders ▸ List.mem_cons_self) hdto
    | true =>
        cases d' with
        | false =>
            have hfolders : "DTO" :: folders n = folders n' := hbefore
            exact absurd (hfolders ▸ List.mem_cons_self) hdto'
        | true => exact ⟨rfl, (List.cons.inj hbefore).2⟩
  refine ⟨hsame.1, ?_⟩
  rcases h with h | h
  · rcases h' with h' | h'
    · rw [stem_of_noSlash h.noSlash, stem_of_noSlash h'.noSlash] at hstem
      exact .inl (String.toList_inj.mp hstem)
    · exact absurd hstem (stem_ne h h')
  · rcases h' with h' | h'
    · exact absurd hstem.symm (stem_ne h' h)
    · refine .inr ⟨h, h', ?_⟩
      rw [namesOf_pathOf, namesOf_pathOf, hsame.2, hstem]

/-- A name with a letter or a digit is spelled plainly. -/
theorem plain_typeName (h : Name.wordChars n.toList ≠ []) : Plain (l.style.typeName n) := by
  refine ⟨slash_not_mem_typeName h, ?_⟩
  have hpascal : ∃ c ∈ (Name.pascal n).toList, Text.isWordChar c = true := by
    rw [Name.pascal, String.toList_ofList]
    obtain ⟨w, hw, -, hwords⟩ := (Name.isPascal_pascalChars h).wordChars
    have hmem : w ∈ Name.wordChars (Name.pascalChars n.toList) := hwords ▸ List.mem_cons_self
    cases w with
    | nil => exact hw.elim
    | cons c w => exact ⟨c, Text.mem_of_mem_stretches hmem List.mem_cons_self⟩
  have hcase : ∃ c ∈ (l.style.typeCase n).toList, Text.isWordChar c = true := by
    cases l <;> exact hpascal
  obtain ⟨c, hc, hword⟩ := hcase
  refine ⟨c, ?_, hword⟩
  unfold Style.typeName Style.avoid
  split
  · rw [String.toList_append]
    exact List.mem_append_left _ hc
  · exact hc

end Names

/-! ## Generated files -/

section Files

variable {l : Language} {o : Options} {m : Metadata} {all : List Artifact} {a b : Artifact}

/-- Different names without letters and digits give paths that are made of different names. -/
def WordlessApart (l : Language) (names : List String) : Prop :=
  ∀ n ∈ names, ∀ n' ∈ names, Wordless n → Wordless n' →
    Path.namesOf (pathOf l n).toList = Path.namesOf (pathOf l n').toList → n = n'

/-- What files are generated under: plain names, and names of types without a letter or a digit. -/
theorem exists_filePath (h : artifacts l o (l.style.refine m) = .ok all) (ha : a ∈ all) :
    ∃ d n, a.path = filePath l d n ∧ (Plain n ∨ n ∈ m.names ∧ Wordless n) := by
  obtain ⟨d, n, hpath, hn⟩ := path_of_refined h ha
  rcases hn with rfl | ⟨n, hn, rfl⟩
  · exact ⟨d, _, hpath, .inl ⟨by decide, 'i', by decide, by decide⟩⟩
  · by_cases hword : Name.wordChars n.toList = []
    · rw [typeName_wordless hword] at hpath
      exact ⟨d, n, hpath, .inr ⟨hn, hword⟩⟩
    · exact ⟨d, _, hpath, .inl (plain_typeName hword)⟩

/-- Generated files whose paths are made of the same names have one path, if this is so for types
without letters and digits in their names. -/
theorem eq_of_namesBelow (h : artifacts l o (l.style.refine m) = .ok all) (ha : a ∈ all)
    (hb : b ∈ all) (heq : namesBelow a = namesBelow b) (hapart : WordlessApart l m.names) :
    a.path = b.path := by
  obtain ⟨d, n, hpath, hn⟩ := exists_filePath h ha
  obtain ⟨d', n', hpath', hn'⟩ := exists_filePath h hb
  have hnames : Path.namesOf (filePath l d n).toList = Path.namesOf (filePath l d' n').toList := by
    rw [← hpath, ← hpath']
    exact heq
  obtain ⟨rfl, hsame⟩ := same_names (hn.imp_right And.right) (hn'.imp_right And.right) hnames
  rw [hpath, hpath']
  rcases hsame with rfl | ⟨hword, hword', hsame⟩
  · rfl
  · rcases hn with hplain | ⟨hn, -⟩
    · exact absurd hword hplain.not_wordless
    · rcases hn' with hplain | ⟨hn', -⟩
      · exact absurd hword' hplain.not_wordless
      · rw [hapart n hn n' hn' hword hword' hsame]

/-- The paths of generated files are made of different names just if this is so for types without
letters and digits in their names. -/
theorem nodup_namesBelow_iff (h : artifacts l o (l.style.refine m) = .ok all) :
    (all.map namesBelow).Nodup ↔ WordlessApart l m.names := by
  obtain ⟨hpaths, hlower⟩ := paths_of_artifacts h
  constructor
  · intro hnodup n hn n' hn' hword hword' hsame
    have hfile : ∀ {n}, n ∈ m.names → Wordless n → ∃ a ∈ all, a.name = n ∧ a.path = pathOf l n := by
      intro n hn hword
      have hmem : n ∈ (l.style.refine m).names := by
        rw [Style.names_refine]
        exact List.mem_map.mpr ⟨n, hn, typeName_wordless hword⟩
      have hmem : (n, pathOf l n) ∈ all.map fun a => (a.name, a.path) := by
        rw [hpaths]
        exact List.mem_append_left _ (List.mem_append_left _ (List.mem_map_of_mem hmem))
      obtain ⟨a, ha, heq⟩ := List.mem_map.mp hmem
      exact ⟨a, ha, congrArg Prod.fst heq, congrArg Prod.snd heq⟩
    obtain ⟨a, ha, rfl, hpath⟩ := hfile hn hword
    obtain ⟨b, hb, rfl, hpath'⟩ := hfile hn' hword'
    have heq : namesBelow a = namesBelow b := by
      rw [namesBelow, namesBelow, hpath, hpath', hsame]
    rw [List.inj_on_of_nodup_map hnodup ha hb heq]
  · intro hapart
    have hpairs := List.pairwise_map.mp hlower
    refine List.pairwise_map.mpr (hpairs.imp_of_mem fun ha hb hne heq => hne ?_)
    rw [eq_of_namesBelow h ha hb heq hapart]

end Files

end Emission

/-! ## Documents -/

namespace Generation

open Emission (StoredAt WordlessApart)

variable {document : Value} {l : Language} {o : Options} {g : Generation} {all : List Artifact}
  {directory : Files.Path} {paths : List Files.Path} {w w' : World}

/-- Generated files that have been written are stored at different places, each with its content, just
if the names of extracted types that have no letters and digits give paths that are made of different
names. -/
theorem written_apart_iff (h : ofDocument document l o none = .ok g) (hall : g.artifacts = .ok all)
    (hwritten : (Emission.writeAll directory l all : Session _).run w = (.ok paths, w')) :
    (∃ places : List Files.Location, places.Nodup ∧
        List.Forall₂ (StoredAt directory w'.files) all places) ↔
      WordlessApart l g.extraction.metadata.names := by
  obtain ⟨-, hmetadata, hartifacts⟩ := ofDocument_ok h
  rw [Emission.stored_apart_iff hwritten]
  rw [hmetadata] at hartifacts
  exact Emission.nodup_namesBelow_iff (hartifacts.symm.trans hall)

/-- A document with two types whose names have slashes but no letter and no digit. -/
def slashNames : Value :=
  .map [(.text "components", .map [(.text "schemas", .map [
    (.text "-/-", .map [(.text "type", .text "string"), (.text "minLength", .int 1)]),
    (.text "-//-", .map [(.text "type", .text "string"), (.text "maxLength", .int 9)])])])]

/-- Two files are written, but not at two places: the names of the types give different paths that are
made of the same names. -/
theorem slashNames_overwritten : ∃ g all paths w',
    ofDocument slashNames .csharp {} none = .ok g ∧ g.artifacts = .ok all ∧
      (Emission.writeAll (.ofText "out") .csharp all : Session _).run {} = (.ok paths, w') ∧
      all.map (·.path) = ["-/-.cs", "-//-.cs"] ∧
      ¬ ∃ places : List Files.Location, places.Nodup ∧
        List.Forall₂ (StoredAt (.ofText "out") w'.files) all places := by
  have hseen : (ofDocument slashNames .csharp {} none).toOption.any (fun g =>
      g.extraction.metadata.names == ["-/-", "-//-"] && g.artifacts.toOption.any fun all =>
        all.map (·.path) == ["-/-.cs", "-//-.cs"] &&
          ((Emission.writeAll (.ofText "out") .csharp all : Session _).run {}).1.isOk) = true := by
    decide +kernel
  cases hg : ofDocument slashNames .csharp {} none with
  | error e =>
      rw [hg] at hseen
      cases hseen
  | ok g =>
      rw [hg, Except.toOption, Option.any_some, Bool.and_eq_true, beq_iff_eq] at hseen
      obtain ⟨hnames, hseen⟩ := hseen
      cases hall : g.artifacts with
      | error x =>
          rw [hall] at hseen
          cases hseen
      | ok all =>
          rw [hall, Except.toOption, Option.any_some, Bool.and_eq_true, beq_iff_eq] at hseen
          obtain ⟨hpaths, hseen⟩ := hseen
          rcases hrun : (Emission.writeAll (.ofText "out") .csharp all : Session _).run {}
            with ⟨f | paths, w'⟩
          · rw [hrun] at hseen
            cases hseen
          · refine ⟨g, all, paths, w', rfl, hall, hrun, hpaths, fun happart => ?_⟩
            have hdiffer := (written_apart_iff hg hall hrun).mp happart
            rw [hnames] at hdiffer
            have hsame : Files.Path.namesOf (Emission.pathOf .csharp "-/-").toList =
                Files.Path.namesOf (Emission.pathOf .csharp "-//-").toList := by decide +kernel
            have heq : "-/-" = "-//-" :=
              hdiffer _ (by decide) _ (by decide) (by decide) (by decide) hsame
            exact absurd heq (by decide)

end Generation

end Typewright
