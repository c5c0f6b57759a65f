/-
# Renaming twice is renaming once

A spelling is settled by spelling it, and so is a reserved name that was marked with an underscore,
since the underscore is dropped before it is set again (`avoid_avoid`).  Names that were numbered
are the delicate part: a number must be kept when the name is spelled again, and a name without any
word, which is spelled as it is, must not have to be numbered at all.  `Numbering` says what a
spelling has to satisfy for that, and `Numbering.spell_freshAll` is the induction over the fields of
a model.

From there on it is structural.  Where the names of types are settled, metadata that have been
refined are left as they are just if their models fit the style, which is a matter of the names of
fields alone (`Style.refine_refine_iff`).  A style of which both spellings are settled
(`Style.Settled`) leaves what it has refined as it is (`Style.Settled.refine_refine`), and reports
that it does.
-/
import Typewright.Proofs.Name.Case
import Typewright.Refinement

namespace Typewright

namespace Style

variable {s : Style} {spell : String → String} {reserved : List String}

/-! ## Reserved names -/

theorem avoid_of_mem {name : String} (h : name ∈ reserved) : avoid reserved name = name ++ "_" :=
  if_pos (List.contains_iff_mem.mpr h)

theorem avoid_of_not_mem {name : String} (h : name ∉ reserved) : avoid reserved name = name :=
  if_neg fun hc => h (List.contains_iff_mem.mp hc)

/-- A settled spelling that drops the mark of reserved names is settled with it. -/
theorem avoid_avoid (hspell : ∀ n, spell (spell n) = spell n)
    (hmark : ∀ n ∈ reserved, spell n = n → spell (n ++ "_") = n) (n : String) :
    avoid reserved (spell (avoid reserved (spell n))) = avoid reserved (spell n) := by
  by_cases h : spell n ∈ reserved
  · rw [avoid_of_mem h, hmark _ h (hspell n), avoid_of_mem h]
  · rw [avoid_of_not_mem h, hspell, avoid_of_not_mem h]

end Style

/-! ## Numbers behind names -/

namespace Name

/-- A spelling under which names can be kept apart by numbers: names without a word are kept as they
are, all others give settled names with a word, whether numbered or not. -/
structure Numbering (spell : String → String) (worded : String → Prop) : Prop where
  kept : ∀ n, ¬worded n → spell n = n
  settled : ∀ n, spell (spell n) = spell n
  worded_spell : ∀ n, worded n → worded (spell n)
  worded_numbered : ∀ n k, worded (numbered n k)
  spell_numbered : ∀ n k, worded n → spell (numbered (spell n) k) = numbered (spell n) k

namespace Numbering

variable {spell : String → String} {worded : String → Prop}

/-- A name with a word gets a settled name with a word, whatever is taken. -/
theorem spell_fresh (h : Numbering spell worded) {n : String} (hn : worded n)
    (taken : List String) :
    spell (fresh taken (spell n)) = fresh taken (spell n) ∧ worded (fresh taken (spell n)) := by
  rcases fresh_eq_or taken (spell n) with heq | ⟨k, heq⟩ <;> rw [heq]
  · exact ⟨h.settled n, h.worded_spell n hn⟩
  · exact ⟨h.spell_numbered n k hn, h.worded_numbered _ k⟩

/-- Names that are kept apart are settled.  The induction is on the names; none without a word that
is still to come is taken, since such a name can be taken by itself only. -/
theorem spell_freshAll (h : Numbering spell worded) {names taken : List String}
    (hnodup : names.Nodup) (htaken : ∀ t ∈ taken, ¬worded t → t ∉ names) :
    ∀ m ∈ freshAll taken (names.map spell), spell m = m := by
  induction names generalizing taken with
  | nil => exact fun m hm => absurd hm List.not_mem_nil
  | cons n r ih =>
      obtain ⟨hn, hr⟩ := List.nodup_cons.mp hnodup
      have hold : ∀ t ∈ taken, ¬worded t → t ∉ r :=
        fun t ht hword hmem => htaken t ht hword (List.mem_cons_of_mem n hmem)
      have hhead : spell (fresh taken (spell n)) = fresh taken (spell n) ∧
          (¬worded (fresh taken (spell n)) → fresh taken (spell n) ∉ r) := by
        by_cases hword : worded n
        · obtain ⟨hspell, hfresh⟩ := h.spell_fresh hword taken
          exact ⟨hspell, fun hnot => absurd hfresh hnot⟩
        · have hfree : n ∉ taken := fun hmem => htaken n hmem hword List.mem_cons_self
          rw [h.kept n hword, fresh_eq_self hfree]
          exact ⟨h.kept n hword, fun _ => hn⟩
      intro m hm
      rcases List.mem_cons.mp hm with rfl | hm
      · exact hhead.1
      · refine ih hr (fun t ht hword => ?_) m hm
        rcases List.mem_cons.mp ht with rfl | ht
        · exact hhead.2 hword
        · exact hold t ht hword

/-- Keeping names apart a second time changes nothing. -/
theorem freshAll_freshAll (h : Numbering spell worded) {names : List String}
    (hnodup : names.Nodup) :
    freshAll [] ((freshAll [] (names.map spell)).map spell) = freshAll [] (names.map spell) := by
  have hsettled : ∀ m ∈ freshAll [] (names.map spell), spell m = m :=
    h.spell_freshAll hnodup fun _ ht => absurd ht List.not_mem_nil
  rw [List.map_congr_left hsettled, List.map_id']
  exact freshAll_eq_self (freshAll_apart [] _).1 fun _ _ => List.not_mem_nil

end Numbering

end Name

/-! ## Metadata -/

namespace Style

/-- A style of which the spellings of types and of fields that are kept apart are settled. -/
structure Settled (s : Style) : Prop where
  typeName_typeName : ∀ n, s.typeName (s.typeName n) = s.typeName n
  freshAll_freshAll : ∀ names : List String, names.Nodup →
    Name.freshAll [] ((Name.freshAll [] (names.map s.fieldName)).map s.fieldName) =
      Name.freshAll [] (names.map s.fieldName)

theorem refineField_eq (s : Style) (name : String) (f : Field) :
    s.refineField name f =
      { f with
        name := name
        dataType := s.refineType f.dataType
        element := f.element.map s.refineType
        wireName := if f.wireName == "" then name else f.wireName } := by
  unfold refineField Field.withWireName
  split <;> simp_all

theorem length_fieldNames (s : Style) (fields : List Field) :
    (s.fieldNames fields).length = fields.length := by
  rw [fieldNames, Name.length_freshAll, List.length_map]

theorem map_name_zipWith_refineField (s : Style) :
    ∀ {names : List String} {fields : List Field}, names.length = fields.length →
      (names.zipWith s.refineField fields).map (·.name) = names
  | [], _, _ => rfl
  | n :: names, f :: fields, h => by
      rw [List.zipWith_cons_cons, List.map_cons, refineField_eq,
        map_name_zipWith_refineField s (Nat.succ.inj h)]

theorem eq_map_name_of_keepsField (s : Style) {names : List String} {fields : List Field}
    (hlen : names.length = fields.length)
    (h : (names.zipWith s.keepsField fields).all (fun kept => kept) = true) :
    names = fields.map (·.name) := by
  induction names generalizing fields with
  | nil => rw [List.length_eq_zero_iff.mp hlen.symm, List.map_nil]
  | cons n names ih =>
      cases fields with
      | nil => exact nomatch hlen
      | cons f fields =>
          rw [List.zipWith_cons_cons, List.all_cons, Bool.and_eq_true] at h
          obtain ⟨hf, hrest⟩ := h
          have hn : n = f.name := by
            simp only [keepsField, Bool.and_eq_true, beq_iff_eq] at hf
            exact hf.1.1
          rw [hn, List.map_cons, ih (Nat.succ.inj hlen) hrest]

theorem fieldNames_eq (s : Style) (fields : List Field) :
    s.fieldNames fields = Name.freshAll [] ((fields.map (·.name)).map s.fieldName) := by
  rw [fieldNames, List.map_map]
  rfl

/-! ### Types, and fields under their names -/

section Types

variable {s : Style} (htypes : ∀ n, s.typeName (s.typeName n) = s.typeName n)

include htypes

theorem keepsType_refineType (t : DataType) : s.keepsType (s.refineType t) = true :=
  beq_iff_eq.mpr (htypes t.name)

theorem refineType_refineType (t : DataType) :
    s.refineType (s.refineType t) = s.refineType t := by
  simp only [refineType, htypes]

theorem refineField_refineField (name : String) (f : Field) :
    s.refineField name (s.refineField name f) = s.refineField name f := by
  have helement : (f.element.map s.refineType).map s.refineType = f.element.map s.refineType := by
    cases f.element with
    | none => rfl
    | some t => exact congrArg some (refineType_refineType htypes t)
  have hwire : (if (if f.wireName == "" then name else f.wireName) == "" then name
      else if f.wireName == "" then name else f.wireName) =
        if f.wireName == "" then name else f.wireName := by
    cases hempty : f.wireName == "" <;> simp [hempty]
  simp only [refineField_eq, refineType_refineType htypes, helement, hwire]

theorem keepsField_refineField (name : String) (f : Field) :
    s.keepsField name (s.refineField name f) = true := by
  have helement : (f.element.map s.refineType).all s.keepsType = true := by
    cases f.element with
    | none => rfl
    | some t => exact keepsType_refineType htypes t
  simp [keepsField, refineField_eq, keepsType_refineType htypes, helement]

theorem zipWith_refineField :
    ∀ (names : List String) (fields : List Field),
      names.zipWith s.refineField (names.zipWith s.refineField fields) =
        names.zipWith s.refineField fields
  | [], _ => rfl
  | _ :: _, [] => rfl
  | n :: names, f :: fields => by
      simp only [List.zipWith_cons_cons, refineField_refineField htypes, zipWith_refineField]

theorem all_keepsField :
    ∀ (names : List String) (fields : List Field),
      (names.zipWith s.keepsField (names.zipWith s.refineField fields)).all (fun kept => kept) =
        true
  | [], _ => rfl
  | _ :: _, [] => rfl
  | n :: names, f :: fields => by
      simp [keepsField_refineField htypes, all_keepsField names fields]

end Types

/-! ### Models -/

section Models

variable {s : Style} {x : Model} {m : Metadata}

/-- The fields of a model have the names that they are given. -/
def Fits (s : Style) (x : Model) : Prop := s.fieldNames x.fields = x.fields.map (·.name)

theorem map_name_refineModel (s : Style) (x : Model) :
    (s.refineModel x).fields.map (·.name) = s.fieldNames x.fields :=
  map_name_zipWith_refineField s (length_fieldNames s x.fields)

theorem fieldNames_refineModel (s : Style) (x : Model) :
    s.fieldNames (s.refineModel x).fields =
      Name.freshAll [] ((s.fieldNames x.fields).map s.fieldName) := by
  rw [fieldNames_eq, map_name_refineModel]

theorem fits_of_keepsModel (h : s.keepsModel x = true) : s.Fits x :=
  eq_map_name_of_keepsField s (length_fieldNames s x.fields) (Bool.and_eq_true_iff.mp h).2

variable (htypes : ∀ n, s.typeName (s.typeName n) = s.typeName n)

include htypes

theorem refineModel_refineModel_iff :
    s.refineModel (s.refineModel x) = s.refineModel x ↔ s.Fits (s.refineModel x) := by
  constructor
  · intro h
    have hnames := congrArg (fun y => y.fields.map (·.name)) h
    rwa [map_name_refineModel] at hnames
  · intro hnames
    rw [Fits, map_name_refineModel] at hnames
    unfold refineModel at hnames ⊢
    simp only [hnames, htypes, zipWith_refineField htypes]

theorem keepsModel_refineModel (hnames : s.Fits (s.refineModel x)) :
    s.keepsModel (s.refineModel x) = true := by
  rw [keepsModel, hnames, map_name_refineModel, Bool.and_eq_true]
  exact ⟨beq_iff_eq.mpr (htypes x.name), all_keepsField htypes _ _⟩

theorem refine_refine_iff :
    s.refine (s.refine m) = s.refine m ↔ ∀ x ∈ m.models, s.Fits (s.refineModel x) := by
  have hmodels : (m.models.map s.refineModel).map s.refineModel = m.models.map s.refineModel ↔
      ∀ x ∈ m.models, s.Fits (s.refineModel x) := by
    rw [List.map_map, List.map_inj_left]
    exact forall₂_congr fun _ _ => refineModel_refineModel_iff htypes
  have hdata : (m.dataTypes.map s.refineType).map s.refineType = m.dataTypes.map s.refineType := by
    rw [List.map_map]
    exact List.map_congr_left fun t _ => refineType_refineType htypes t
  rw [← hmodels]
  simp only [refine, hdata, Metadata.mk.injEq, true_and]

theorem keeps_refine_iff :
    s.keeps (s.refine m) = true ↔ ∀ x ∈ m.models, s.Fits (s.refineModel x) := by
  simp only [keeps, refine, List.all_map, Bool.and_eq_true, List.all_eq_true]
  exact ⟨fun h x hx => fits_of_keepsModel (h.2 x hx), fun h =>
    ⟨fun t _ => keepsType_refineType htypes t, fun x hx => keepsModel_refineModel htypes (h x hx)⟩⟩

end Models

namespace Settled

variable {s : Style} {x : Model} {m : Metadata}

/-- A model that has been refined fits the style. -/
theorem fits_refineModel (h : s.Settled) (hx : (x.fields.map (·.name)).Nodup) :
    s.Fits (s.refineModel x) := by
  rw [Fits, fieldNames_refineModel, map_name_refineModel, fieldNames_eq]
  exact h.freshAll_freshAll _ hx

/-- A settled style leaves metadata that it has refined as they are. -/
theorem refine_refine (h : s.Settled) (hm : ∀ x ∈ m.models, (x.fields.map (·.name)).Nodup) :
    s.refine (s.refine m) = s.refine m :=
  (refine_refine_iff h.typeName_typeName).mpr fun x hx => h.fits_refineModel (hm x hx)

/-- A settled style reports that it renames nothing in metadata that it has refined. -/
theorem keeps_refine (h : s.Settled) (hm : ∀ x ∈ m.models, (x.fields.map (·.name)).Nodup) :
    s.keeps (s.refine m) = true :=
  (keeps_refine_iff h.typeName_typeName).mpr fun x hx => h.fits_refineModel (hm x hx)

end Settled

end Style

/-! ## Python -/

namespace Name

variable {n : String}

theorem pascal_append_underscore (h : wordChars n.toList ≠ []) : pascal (n ++ "_") = pascal n := by
  have hlist : (n ++ "_").toList = n.toList ++ ['_'] := by simp
  rw [pascal, pascal, hlist, pascalChars_append_underscore h]

theorem isSnake_snake (h : snakeWords n.toList ≠ []) : IsSnake (snake n).toList := by
  rw [snake, String.toList_ofList]
  exact isSnake_snakeChars h

theorem snake_eq_self (h : IsSnake n.toList) : snake n = n := by
  rw [snake, snakeChars_eq_self h, String.ofList_toList]

theorem snake_of_wordless (h : snakeWords n.toList = []) : snake n = n := by
  rw [snake, snakeChars_of_wordless h, String.ofList_toList]

theorem snake_append_underscore (h : IsSnake n.toList) : snake (n ++ "_") = n := by
  have hlist : (n ++ "_").toList = n.toList ++ ['_'] := by simp
  rw [snake, hlist, snakeChars_append_underscore h, String.ofList_toList]

theorem numbered_worded (n : String) (k : Nat) : snakeWords (numbered n k).toList ≠ [] := by
  obtain ⟨c, hc⟩ := List.exists_mem_of_ne_nil _ (isSnakeWord_toDigits k).1
  rw [toList_numbered]
  exact snakeWords_ne_nil (List.mem_append_right _ hc) ((isSnakeWord_toDigits k).2 c hc).1

end Name

namespace Language

open Name (numbered snakeWords)

variable {n : String}

/-- A reserved name has a letter, and does not end in a digit. -/
theorem reservedFields_spec : ∀ l : Language, ∀ n ∈ l.reservedFields,
    n.toList.any Text.isWordChar = true ∧ n.toList.getLast?.any Text.isAsciiDigit = false
  | .csharp => by decide
  | .python => by decide

theorem reservedTypes_worded : ∀ l : Language, ∀ n ∈ l.reservedTypes,
    n.toList.any Text.isWordChar = true
  | .csharp => by decide
  | .python => by decide

theorem snakeWords_of_reserved (h : n ∈ python.reservedFields) : snakeWords n.toList ≠ [] := by
  obtain ⟨c, hc, hword⟩ := List.any_eq_true.mp (reservedFields_spec _ n h).1
  exact Name.snakeWords_ne_nil hc hword

theorem numbered_not_reserved (l : Language) (n : String) (k : Nat) :
    numbered n k ∉ l.reservedFields := by
  intro h
  have hlast := (reservedFields_spec l _ h).2
  rw [Name.getLast?_numbered] at hlast
  exact nomatch hlast

/-- The name of a field that has a word is in snake case, but for an underscore at its end. -/
theorem python_fieldName_cases (h : snakeWords n.toList ≠ []) :
    ∃ t r, Name.IsSnake t ∧ (r = [] ∨ r = ['_']) ∧ (python.style.fieldName n).toList = t ++ r := by
  have hsnake := Name.isSnake_snake h
  by_cases hmem : Name.snake n ∈ python.reservedFields
  · refine ⟨_, ['_'], hsnake, .inr rfl, ?_⟩
    show (Style.avoid python.reservedFields (Name.snake n)).toList = _
    rw [Style.avoid_of_mem hmem]
    simp
  · refine ⟨_, [], hsnake, .inl rfl, ?_⟩
    show (Style.avoid python.reservedFields (Name.snake n)).toList = _
    rw [Style.avoid_of_not_mem hmem, List.append_nil]

theorem python_numbering :
    Name.Numbering python.style.fieldName fun n => snakeWords n.toList ≠ [] where
  kept n h := by
    have hsnake : Name.snake n = n := Name.snake_of_wordless (Decidable.not_not.mp h)
    show Style.avoid python.reservedFields (Name.snake n) = n
    rw [hsnake]
    exact Style.avoid_of_not_mem fun hmem => h (snakeWords_of_reserved hmem)
  settled := Style.avoid_avoid Name.snake_snake fun n hmem heq =>
    Name.snake_append_underscore (heq ▸ Name.isSnake_snake (snakeWords_of_reserved hmem))
  worded_spell n h := by
    obtain ⟨t, r, ht, hr, heq⟩ := python_fieldName_cases h
    rw [heq]
    exact ht.snakeWords_ne_nil hr
  worded_numbered := Name.numbered_worded
  spell_numbered n k h := by
    obtain ⟨t, r, ht, hr, heq⟩ := python_fieldName_cases h
    have hsnake : Name.IsSnake (numbered (python.style.fieldName n) k).toList := by
      rw [Name.toList_numbered, heq]
      rcases hr with rfl | rfl
      · rw [List.append_nil]
        exact ht.append (Name.isSnakeWord_toDigits k)
      · rw [List.append_assoc]
        exact ht.append_underscore (Name.isSnakeWord_toDigits k)
    show Style.avoid python.reservedFields (Name.snake _) = _
    rw [Name.snake_eq_self hsnake]
    exact Style.avoid_of_not_mem (numbered_not_reserved _ _ k)

theorem python_settled : python.style.Settled where
  typeName_typeName := Style.avoid_avoid Name.pascal_pascal fun n hmem heq => by
    obtain ⟨c, hc, hword⟩ := List.any_eq_true.mp (reservedTypes_worded python n hmem)
    exact (Name.pascal_append_underscore (Text.stretches_ne_nil hc hword)).trans heq
  freshAll_freshAll _ := python_numbering.freshAll_freshAll

end Language

namespace Refiner

/-- Refining for Python a second time changes nothing, and is reported to rename nothing, where the
fields of a model have different names. -/
theorem python_idempotent (m : Metadata) (hm : ∀ x ∈ m.models, (x.fields.map (·.name)).Nodup) :
    let r : Refiner := [Language.python.style]
    r.apply (r.apply m) = r.apply m ∧ r.keeps (r.apply m) = true := by
  refine ⟨Language.python_settled.refine_refine hm, ?_⟩
  show (_ && true) = true
  rw [Bool.and_true]
  exact Language.python_settled.keeps_refine hm

/-- A model of which the fields get reserved names, the same names, and a name without a word. -/
def collidingFields : Metadata :=
  ⟨[⟨"zip code", .string, [], none, none, .null⟩],
    [⟨"none", ["userName", "user_name", "class", "Class", "+", "from_2", "from"].map fun n =>
      { name := n, dataType := ⟨"zip code", .string, [], none, none, .null⟩ },
      .entity, none, none⟩]⟩

theorem collidingFields_settled :
    let r : Refiner := [Language.python.style]
    r.apply (r.apply collidingFields) = r.apply collidingFields ∧
      r.keeps (r.apply collidingFields) = true ∧
      (r.apply collidingFields).models.map (fun x => (x.name, x.fields.map (·.name))) =
        [("None_", ["user_name", "user_name2", "class_", "class_2", "+", "from_2", "from_"])] := by
  have hsettled := python_idempotent collidingFields (by decide)
  exact ⟨hsettled.1, hsettled.2, by decide +kernel⟩

end Refiner

end Typewright
