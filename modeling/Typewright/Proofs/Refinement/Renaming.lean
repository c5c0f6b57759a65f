/-
# Generation renames, and nothing else

What a language gets is what was extracted, entry by entry, under other names (`Metadata.Renamed`).
Types are renamed wherever they occur and without regard to each other, so two of them may well get
one name; but then there would be two files with one path, and none are given.  Where files are
given, the type of a field therefore still stands for the entry that it stood for
(`Field.PointsAlike`).

The name on the wire needs a word.  A field without one goes by its own name there, which would be
the new name if it had none: but a name that is empty stays empty, because only an empty name is
spelled so and the fields of a model have different names.
-/
import Mathlib.Data.List.Forall2
import Typewright.Generation
import Typewright.Proofs.Emission.Artifacts
import Typewright.Proofs.Extraction.WellFormed
import Typewright.Proofs.Refinement.Idempotent

namespace Typewright

/-! ## Renaming as a relation -/

/-- Data types that differ in their names only. -/
def DataType.Renamed (t t' : DataType) : Prop := t' = { t with name := t'.name }

/-- Fields that differ in their names and in those of their types only; the element type, which is
given for collections, is the type of the field on both sides. -/
structure Field.Renamed (f f' : Field) : Prop where
  same : f' = { f with name := f'.name, dataType := f'.dataType, element := f'.element }
  dataType : f.dataType.Renamed f'.dataType
  element : f.ElementMatches ∧ f'.ElementMatches

/-- Models that differ in their names and in those of and in their fields only. -/
structure Model.Renamed (x x' : Model) : Prop where
  same : x' = { x with name := x'.name, fields := x'.fields }
  fields : List.Forall₂ Field.Renamed x.fields x'.fields

/-- Metadata that differ in names only, entry by entry. -/
structure Metadata.Renamed (m m' : Metadata) : Prop where
  dataTypes : List.Forall₂ DataType.Renamed m.dataTypes m'.dataTypes
  models : List.Forall₂ Model.Renamed m.models m'.models

/-- Fields whose types stand for the same entry: the entry that the type of the one had the name of
among some names is the only one that the type of the other has the name of among others. -/
def Field.PointsAlike (names names' : List String) (f f' : Field) : Prop :=
  ∀ k : Nat, names[k]? = some f.dataType.name →
    ∀ j : Nat, names'[j]? = some f'.dataType.name ↔ j = k

/-! ## Empty names -/

namespace Name

/-- Where only the empty name is spelled as the empty name, it is kept when names are kept apart. -/
theorem freshAll_empty {spell : String → String} (hempty : spell "" = "")
    (hspell : ∀ n, n ≠ "" → spell n ≠ "") {names taken : List String} (hnodup : names.Nodup)
    (htaken : "" ∈ taken → "" ∉ names) :
    List.Forall₂ (fun n m => n = "" → m = "") names (freshAll taken (names.map spell)) := by
  induction names generalizing taken with
  | nil => exact .nil
  | cons n r ih =>
      obtain ⟨hn, hr⟩ := List.nodup_cons.mp hnodup
      by_cases h : n = ""
      · have hfree : "" ∉ taken := fun hmem => htaken hmem (h ▸ List.mem_cons_self)
        have hfresh : fresh taken (spell n) = "" := by
          rw [h, hempty]
          exact fresh_eq_self hfree
        exact .cons (fun _ => hfresh) (ih hr fun _ => h ▸ hn)
      · have hfresh : fresh taken (spell n) ≠ "" := fresh_ne_empty taken (hspell n h)
        refine .cons (fun h' => absurd h' h) (ih hr fun hmem hr => ?_)
        rcases List.mem_cons.mp hmem with hmem | hmem
        · exact hfresh hmem.symm
        · exact htaken hmem (List.mem_cons_of_mem n hr)

theorem snake_ne_empty {n : String} (h : n ≠ "") : snake n ≠ "" := by
  by_cases hwords : snakeWords n.toList = []
  · rwa [snake_of_wordless hwords]
  · obtain ⟨ws, hne, hws, hsnake⟩ := isSnake_snake hwords
    intro hempty
    have hnil : (snake n).toList = [] := by rw [hempty]; rfl
    exact guardDigit_ne_nil (joinWords_ne_nil hne hws) (hsnake ▸ hnil)

end Name

namespace Style

/-- A style in which only the empty name is spelled as an empty name of a field. -/
structure KeepsEmpty (s : Style) : Prop where
  empty : s.fieldName "" = ""
  other : ∀ n, n ≠ "" → s.fieldName n ≠ ""

theorem avoid_ne_empty {reserved : List String} {name : String} (h : name ≠ "") :
    avoid reserved name ≠ "" := by
  unfold avoid
  split
  · simp
  · exact h

theorem keepsEmpty_style : ∀ l : Language, l.style.KeepsEmpty
  | .csharp => ⟨by decide, fun _ h => avoid_ne_empty (Name.pascal_ne_empty h)⟩
  | .python => ⟨by decide, fun _ h => avoid_ne_empty (Name.snake_ne_empty h)⟩

/-! ## What refining changes -/

section Refine

variable {s : Style} {f : Field} {x : Model} {m : Metadata}

theorem refineType_renamed (s : Style) (t : DataType) : t.Renamed (s.refineType t) := rfl

theorem refineField_renamed {name : String} (hwire : f.wireName = f.name)
    (hname : f.name = "" → name = "") (helement : f.ElementMatches) :
    f.Renamed (s.refineField name f) := by
  have hsame : (if f.wireName == "" then name else f.wireName) = f.wireName := by
    split
    · rename_i hempty
      have hempty := beq_iff_eq.mp hempty
      rw [hname (hwire ▸ hempty), hempty]
    · rfl
  rw [refineField_eq, hsame]
  refine ⟨rfl, rfl, helement, ?_⟩
  unfold Field.ElementMatches at helement ⊢
  dsimp only
  rw [helement]
  split <;> rfl

/-- The fields of a well-formed model, with their names after refining in the same order. -/
theorem forall₂_fieldNames (hs : s.KeepsEmpty) (hx : x.WellFormed) :
    List.Forall₂ (fun f n => f.name = "" → n = "") x.fields (s.fieldNames x.fields) := by
  rw [fieldNames_eq]
  have hnames : List.Forall₂ (fun n m => n = "" → m = "") (x.fields.map (·.name))
      (Name.freshAll [] ((x.fields.map (·.name)).map s.fieldName)) :=
    Name.freshAll_empty hs.empty hs.other hx.nodup fun h => absurd h List.not_mem_nil
  exact List.forall₂_map_left_iff.mp hnames

theorem forall₂_zipWith {R : Field → String → Prop} {R' : Field → Field → Prop}
    (hR : ∀ {f n}, f ∈ x.fields → R f n → R' f (s.refineField n f)) :
    ∀ {fields : List Field} {names : List String}, fields ⊆ x.fields →
      List.Forall₂ R fields names → List.Forall₂ R' fields (names.zipWith s.refineField fields)
  | [], _, _, .nil => .nil
  | f :: _, _ :: _, hsub, .cons hf hrest =>
      .cons (hR (hsub List.mem_cons_self) hf)
        (forall₂_zipWith hR (fun _ h => hsub (List.mem_cons_of_mem f h)) hrest)

theorem refineModel_renamed (hs : s.KeepsEmpty) (hx : x.WellFormed) :
    x.Renamed (s.refineModel x) := by
  refine ⟨rfl, forall₂_zipWith (fun hf hname => ?_) (fun _ h => h) (forall₂_fieldNames hs hx)⟩
  exact refineField_renamed (hx.wireName _ hf) hname (hx.element _ hf)

theorem refine_renamed (hs : s.KeepsEmpty) (hm : ∀ x ∈ m.models, x.WellFormed) :
    m.Renamed (s.refine m) where
  dataTypes := List.forall₂_map_right_iff.mpr (List.forall₂_same.mpr fun t _ =>
    refineType_renamed s t)
  models := List.forall₂_map_right_iff.mpr (List.forall₂_same.mpr fun x hx =>
    refineModel_renamed hs (hm x hx))

/-- Types are renamed wherever they occur. -/
theorem names_refine (s : Style) (m : Metadata) : (s.refine m).names = m.names.map s.typeName := by
  simp only [Metadata.names, refine, List.map_append, List.map_map]
  rfl

/-- The types of the fields of a model are renamed like all others. -/
theorem dataType_name_refineModel (s : Style) (x : Model) :
    List.Forall₂ (fun f f' => f'.dataType.name = s.typeName f.dataType.name) x.fields
      (s.refineModel x).fields := by
  have hlength : (s.fieldNames x.fields).length = x.fields.length := length_fieldNames s x.fields
  have hall : List.Forall₂ (fun _ _ => True) x.fields (s.fieldNames x.fields) :=
    List.forall₂_iff_zip.mpr ⟨hlength.symm, fun _ => trivial⟩
  refine forall₂_zipWith (fun {f n} _ _ => ?_) (fun _ h => h) hall
  rw [refineField_eq]
  rfl

/-- Where names are still different after refining, types stand for the entries that they stood
for. -/
theorem refine_pointsAlike (hnodup : (s.refine m).names.Nodup) :
    List.Forall₂
      (fun x x' => List.Forall₂ (Field.PointsAlike m.names (s.refine m).names) x.fields x'.fields)
      m.models (s.refine m).models := by
  refine List.forall₂_map_right_iff.mpr (List.forall₂_same.mpr fun x _ => ?_)
  refine (dataType_name_refineModel s x).imp fun f f' hname k hk j => ?_
  have hentry : (s.refine m).names[k]? = some f'.dataType.name := by
    rw [names_refine, List.getElem?_map, hk, hname]
    rfl
  constructor
  · intro hj
    have hlt : j < (s.refine m).names.length := (List.getElem?_eq_some_iff.mp hj).1
    exact (List.getElem?_inj hlt hnodup).mp (hj.trans hentry.symm)
  · rintro rfl
    exact hentry

end Refine

end Style

/-! ## Generation -/

namespace Generation

variable {document : Value} {l : Language} {o : Options} {g : Generation} {files : List Artifact}

theorem ofDocument_ok (h : ofDocument document l o none = .ok g) :
    Extraction.ofDocument document true = .ok g.extraction ∧
      g.metadata = l.style.refine g.extraction.metadata ∧
      g.artifacts = Emission.artifacts l o g.metadata := by
  unfold ofDocument at h
  cases he : Extraction.ofDocument document true with
  | error e =>
      rw [he] at h
      exact nomatch h
  | ok e =>
      rw [he] at h
      cases h
      exact ⟨rfl, rfl, rfl⟩

/-- Where files are given for a document, the refined metadata are the extracted ones under other
names, entry by entry; the names of data types and models differ even in the lower case of their
paths; and the type of a field stands for the entry that it stood for, and for no other. -/
theorem renames (hg : ofDocument document l o none = .ok g) (hfiles : g.artifacts = .ok files) :
    Extraction.ofDocument document true = .ok g.extraction ∧
      g.extraction.metadata.Renamed g.metadata ∧
      (g.metadata.names.map fun n => Text.lower (Emission.pathOf l n)).Nodup ∧
      List.Forall₂
        (fun x x' => List.Forall₂
          (Field.PointsAlike g.extraction.metadata.names g.metadata.names) x.fields x'.fields)
        g.extraction.metadata.models g.metadata.models := by
  obtain ⟨hextraction, hmetadata, hartifacts⟩ := ofDocument_ok hg
  have hpaths : (g.metadata.names.map fun n => Text.lower (Emission.pathOf l n)).Nodup :=
    Emission.nodup_of_artifacts (hartifacts ▸ hfiles)
  have hnames : g.metadata.names.Nodup :=
    List.Pairwise.of_map _ (fun _ _ hne heq => hne (heq ▸ rfl)) hpaths
  refine ⟨hextraction, ?_, hpaths, ?_⟩
  · rw [hmetadata]
    exact Style.refine_renamed (Style.keepsEmpty_style l)
      (Extraction.ofDocument_wellFormed hextraction)
  · rw [hmetadata] at hnames ⊢
    exact Style.refine_pointsAlike hnames

/-- A document whose types and properties all get other names, one of them an array of another. -/
def orders : Value :=
  .map [(.text "components", .map [(.text "schemas", .map [
    (.text "order-code", .map [(.text "type", .text "string"), (.text "minLength", .int 1)]),
    (.text "none", .map [(.text "type", .text "object"), (.text "properties", .map [
      (.text "orderCode", .map [(.text "$ref", .text "#/components/schemas/order-code")]),
      (.text "order_code", .map [(.text "type", .text "array"),
        (.text "items", .map [(.text "$ref", .text "#/components/schemas/order-code")])])])])])])]

theorem orders_renamed : ∃ g files, ofDocument orders .python {} none = .ok g ∧
    g.artifacts = .ok files ∧
    g.extraction.metadata.names = ["order-code", "none"] ∧
    g.metadata.names = ["OrderCode", "None_"] ∧
    g.metadata.models.map (fun x => x.fields.map fun f => (f.name, f.wireName)) =
      [[("order_code", "orderCode"), ("order_code2", "order_code")]] ∧
    g.extraction.metadata.Renamed g.metadata ∧
    List.Forall₂ (fun x x' => List.Forall₂
      (Field.PointsAlike g.extraction.metadata.names g.metadata.names) x.fields x'.fields)
      g.extraction.metadata.models g.metadata.models := by
  have hseen : (ofDocument orders .python {} none).toOption.any (fun g =>
      g.artifacts.toOption.isSome && g.extraction.metadata.names == ["order-code", "none"] &&
        g.metadata.names == ["OrderCode", "None_"] &&
        g.metadata.models.map (fun x => x.fields.map fun f => (f.name, f.wireName)) ==
          [[("order_code", "orderCode"), ("order_code2", "order_code")]]) = true := by
    decide +kernel
  cases hg : ofDocument orders .python {} none with
  | error e =>
      rw [hg] at hseen
      exact nomatch hseen
  | ok g =>
      rw [hg] at hseen
      simp only [Except.toOption, Option.any_some, Bool.and_eq_true, beq_iff_eq] at hseen
      obtain ⟨⟨⟨hfiles, hnames⟩, hnames'⟩, hfields⟩ := hseen
      cases hartifacts : g.artifacts with
      | error e =>
          rw [hartifacts] at hfiles
          exact nomatch hfiles
      | ok files =>
          obtain ⟨-, hrenamed, -, hpoints⟩ := renames hg hartifacts
          exact ⟨g, files, rfl, hartifacts, hnames, hnames', hfields, hrenamed, hpoints⟩

end Generation

end Typewright
