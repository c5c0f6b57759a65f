/-
# The local variables of the method that validates

`TryCreate` of a model has variables of its own, one for each field and one more for each field that
holds a single value, and they are declared in its lines (`tryCreateLines_introduces`).  The variable of
a field is its name with a small letter in front, and the ending `Value` keeps it away from keywords and
from the variables of the method.  Nothing keeps it away from the variables of other fields.  So two of
them are one name where one field is called like another with an ending: `Value` behind a name that had
to be changed, or `Item` behind the variable of a single value (`variables_apart_iff`).  Fields that
differ in the case of their first letter only would share a variable as well, but fields with an ASCII
letter or digit in their names are not given such names (`nodup_lowered`).
-/
import Mathlib.Data.List.Nodup
import Typewright.Proofs.Emission.Faults
import Typewright.Proofs.Refinement.Given

namespace Typewright.Emission.CSharp

/-! ## Lines that declare variables -/

/-- The lines that declare variables in a method, with these variables. -/
inductive Introduces : String → List String → Prop
  | parameters (type input result output : String) :
      Introduces ("    public static bool TryCreate(" ++ type ++ " " ++ input ++ ", out " ++ result ++
        " " ++ output ++ ")") [input, output]
  | flag (name value : String) : Introduces ("        var " ++ name ++ " = " ++ value ++ ";") [name]
  | empty (type name : String) : Introduces ("        " ++ type ++ "? " ++ name ++ " = null;") [name]
  | each (name source : String) :
      Introduces ("            foreach (var " ++ name ++ " in " ++ source ++ ")") [name]
  | element (condition type argument name : String) :
      Introduces ("                if (" ++ condition ++ " && " ++ type ++ ".TryCreate(" ++ argument ++
        ", out var " ++ name ++ "))") [name]
  | item (type argument name : String) :
      Introduces ("            valid &= " ++ type ++ ".TryCreate(" ++ argument ++ ", out var " ++ name ++
        ");") [name]

/-- Lines of which some, in their order, declare variables. -/
inductive IntroducesAll : List String → List String → Prop
  | nil : IntroducesAll [] []
  | skip {line : String} {lines names : List String} : IntroducesAll lines names →
      IntroducesAll (line :: lines) names
  | line {line : String} {own lines names : List String} : Introduces line own →
      IntroducesAll lines names → IntroducesAll (line :: lines) (own ++ names)

section Lines

variable {line line' : String} {own lines lines' names names' : List String}

theorem Introduces.congr (h : Introduces line own) (heq : line'.toList = line.toList) :
    Introduces line' own :=
  String.toList_inj.mp heq ▸ h

theorem IntroducesAll.none : ∀ lines : List String, IntroducesAll lines []
  | [] => .nil
  | _ :: lines => .skip (none lines)

theorem IntroducesAll.append (h : IntroducesAll lines names) (h' : IntroducesAll lines' names') :
    IntroducesAll (lines ++ lines') (names ++ names') := by
  induction h with
  | nil => exact h'
  | skip _ ih => exact .skip ih
  | line hline _ ih =>
      rw [List.append_assoc]
      exact .line hline ih

theorem IntroducesAll.append_none (h : IntroducesAll lines names) (lines' : List String) :
    IntroducesAll (lines ++ lines') names :=
  List.append_nil names ▸ h.append (.none lines')

theorem IntroducesAll.flatMap {α : Type} {f g : α → List String} :
    ∀ {xs : List α}, (∀ x ∈ xs, IntroducesAll (f x) (g x)) →
      IntroducesAll (xs.flatMap f) (xs.flatMap g)
  | [], _ => .nil
  | x :: _, h =>
      (h x List.mem_cons_self).append (flatMap fun y hy => h y (List.mem_cons_of_mem x hy))

end Lines

/-! ## The variables of a model -/

/-- A field that holds one value, and that value no model. -/
def isSingle (f : Field) : Bool := !f.isCollection && !f.dataType.isReference

/-- The variables of a field. -/
def fieldVariables (f : Field) : List String :=
  localName f.name :: if isSingle f then [localName f.name ++ "Item"] else []

/-- The variables of the loop over a field, which no other loop sees. -/
def loopVariables (f : Field) : List String := if f.isCollection then ["item", "element"] else []

/-- The variables of the method that validates: its own, those of loops among them, and those of the
fields. -/
def methodVariables (x : Model) : List String :=
  ["dto", "valid", "validated", "item", "element"] ++ x.fields.flatMap fieldVariables

/-- The lines of the method that validates. -/
def tryCreateLines (o : Options) (x : Model) : List String :=
  ["    public static bool TryCreate(" ++ dtoType o x.name ++ "? dto, out " ++ x.name ++
      "? validated)",
    "    \x7b",
    "        validated = default;",
    "        if (dto is null)",
    "        \x7b",
    "            return false;",
    "        \x7d",
    "",
    "        var valid = true;"] ++
  x.fields.flatMap validationLines ++
  ["",
    "        if (!valid)",
    "        \x7b",
    "            return false;",
    "        \x7d",
    "",
    "        validated = new " ++ x.name,
    "        \x7b"] ++
  x.fields.map (fun f => "            " ++ f.name ++ " = " ++ assigned f ++ ",") ++
  ["        \x7d;",
    "        return true;",
    "    \x7d"]

theorem tryCreateLines_infix (o : Options) (x : Model) (back : List String) :
    tryCreateLines o x <:+: modelLines o x back := by
  refine ⟨summary "" (documentation o x.description) ++
    onlyIf o.annotations ["[Validated(typeof(" ++ dtoType o x.name ++ "))]"] ++
    ["public sealed record " ++ x.name, "\x7b"] ++ x.fields.flatMap (propertyLines o), ?_⟩
  apply Exists.intro
  simp only [modelLines, tryCreateLines, List.append_assoc, List.cons_append, List.nil_append]
  rfl

theorem validationLines_introduces (f : Field) :
    IntroducesAll (validationLines f) (fieldVariables f ++ loopVariables f) := by
  unfold validationLines fieldVariables loopVariables isSingle
  cases f.isCollection with
  | true =>
      have hempty := Introduces.empty ("List<" ++ f.dataType.name ++ ">") (localName f.name)
      have heach := Introduces.each "item" ("dto." ++ f.name)
      have helement := Introduces.element "item is not null" f.dataType.name "item" "element"
      exact .skip <| .line hempty <| .skip <| .skip <| .skip <| .line (heach.congr (by simp)) <|
        .skip <| .line (helement.congr (by simp)) <| .none _
  | false =>
      have hempty := Introduces.empty f.dataType.name (localName f.name)
      cases f.dataType.isReference with
      | true => exact .skip <| .line hempty <| .none _
      | false =>
          have hitem := Introduces.item f.dataType.name ("dto." ++ f.name) (localName f.name ++ "Item")
          show IntroducesAll _ ([localName f.name] ++ ([localName f.name ++ "Item"] ++ []))
          exact .skip <| .line hempty <| .skip <| .skip <| .line (hitem.congr (by simp)) <| .none _

/-- The method declares its own variables and then, field by field, those of the fields and of their
loops. -/
theorem tryCreateLines_introduces (o : Options) (x : Model) :
    IntroducesAll (tryCreateLines o x) (["dto", "validated", "valid"] ++
      x.fields.flatMap fun f => fieldVariables f ++ loopVariables f) := by
  have hparameters := Introduces.parameters (dtoType o x.name ++ "?") "dto" (x.name ++ "?") "validated"
  have hflag : Introduces "        var valid = true;" ["valid"] :=
    (Introduces.flag "valid" "true").congr (by simp)
  have hfields : IntroducesAll (x.fields.flatMap validationLines)
      (x.fields.flatMap fun f => fieldVariables f ++ loopVariables f) :=
    .flatMap fun f _ => validationLines_introduces f
  refine IntroducesAll.append_none (.append_none (.append_none (.append ?_ hfields) _) _) _
  exact .line (hparameters.congr (by simp)) <| .skip <| .skip <| .skip <| .skip <| .skip <| .skip <|
    .skip <| .line hflag .nil

/-! ## The names of variables -/

/-- A name that a variable cannot have. -/
def Avoided (name : String) : Prop :=
  name ∈ Language.csharp.keywords ∨ name ∈ templateLocals

section Names

variable {m n s : String}

theorem suffix_of_avoided (h : Avoided n) :
    ¬"Value".toList.isSuffixOf n.toList = true ∧ ¬"Item".toList.isSuffixOf n.toList = true := by
  have hkeywords : ∀ r ∈ Language.csharp.keywords, ¬"Value".toList.isSuffixOf r.toList = true ∧
    ¬"Item".toList.isSuffixOf r.toList = true := by decide
  have hlocals : ∀ r ∈ templateLocals, ¬"Value".toList.isSuffixOf r.toList = true ∧
    ¬"Item".toList.isSuffixOf r.toList = true := by decide
  exact h.elim (hkeywords n) (hlocals n)

theorem not_avoided_value (s : String) : ¬Avoided (s ++ "Value") := fun h =>
  (suffix_of_avoided h).1 (List.isSuffixOf_iff_suffix.mpr (by simp))

theorem not_avoided_item (s : String) : ¬Avoided (s ++ "Item") := fun h =>
  (suffix_of_avoided h).2 (List.isSuffixOf_iff_suffix.mpr (by simp))

theorem value_ne_item (s t : String) : s ++ "Value" ≠ t ++ "Item" := by
  intro h
  have hlast := congrArg (·.toList.getLast?) h
  simp at hlast

/-- A name with an ending if a variable cannot have it. -/
def marked (name : String) : String :=
  if Language.csharp.keywords.contains name || templateLocals.contains name then name ++ "Value"
  else name

theorem localName_eq (n : String) : localName n = marked (lowerFirst n) := rfl

theorem marked_of_avoided (h : Avoided n) : marked n = n ++ "Value" :=
  if_pos (by simpa [Avoided] using h)

theorem marked_of_not_avoided (h : ¬Avoided n) : marked n = n :=
  if_neg (by simpa [Avoided] using h)

theorem not_avoided_marked (n : String) : ¬Avoided (marked n) := by
  by_cases h : Avoided n
  · rw [marked_of_avoided h]
    exact not_avoided_value n
  · rwa [marked_of_not_avoided h]

theorem marked_eq_item_iff : marked n = s ++ "Item" ↔ n = s ++ "Item" := by
  by_cases h : Avoided n
  · rw [marked_of_avoided h]
    exact iff_of_false (value_ne_item n s) fun heq => not_avoided_item s (heq ▸ h)
  · rw [marked_of_not_avoided h]

/-- Marked names differ where the names do, and none is another one with the ending that it gets. -/
theorem nodup_marked_iff {names : List String} : (names.map marked).Nodup ↔
    names.Nodup ∧ ∀ n ∈ names, Avoided n → n ++ "Value" ∉ names := by
  constructor
  · refine fun h => ⟨h.of_map marked, fun n hn havoided hvalue => ?_⟩
    have heq : marked n = marked (n ++ "Value") := by
      rw [marked_of_avoided havoided, marked_of_not_avoided (not_avoided_value n)]
    have hsame := List.inj_on_of_nodup_map h hn hvalue heq
    exact not_avoided_value n (hsame ▸ havoided)
  · rintro ⟨hnodup, hvalue⟩
    refine List.Nodup.map_on (fun m hm n hn heq => ?_) hnodup
    by_cases hm' : Avoided m <;> by_cases hn' : Avoided n
    · rw [marked_of_avoided hm', marked_of_avoided hn'] at heq
      exact (String.append_left_inj _).mp heq
    · rw [marked_of_avoided hm', marked_of_not_avoided hn'] at heq
      exact absurd (heq ▸ hn) (hvalue m hm hm')
    · rw [marked_of_not_avoided hm', marked_of_avoided hn'] at heq
      exact absurd (heq ▸ hm) (hvalue n hn hn')
    · rwa [marked_of_not_avoided hm', marked_of_not_avoided hn'] at heq

end Names

/-! ## Variables that are one name -/

/-- The names of the fields of a model with a small letter in front. -/
def lowered (x : Model) : List String := x.fields.map fun f => lowerFirst f.name

theorem map_localName (x : Model) :
    x.fields.map (fun f => localName f.name) = (lowered x).map marked := by
  rw [lowered, List.map_map]
  exact List.map_congr_left fun f _ => localName_eq f.name

theorem flatMap_fieldVariables_perm (fields : List Field) :
    (fields.flatMap fieldVariables).Perm (fields.map (fun f => localName f.name) ++
      (fields.filter isSingle).map fun f => localName f.name ++ "Item") := by
  induction fields with
  | nil => exact .nil
  | cons f fields ih =>
      rw [List.flatMap_cons, List.map_cons, fieldVariables]
      cases hsingle : isSingle f with
      | true =>
          rw [List.filter_cons_of_pos hsingle, List.map_cons]
          exact ((ih.cons _).trans List.perm_middle.symm).cons _
      | false =>
          rw [List.filter_cons_of_neg (by simp [hsingle])]
          exact ih.cons _

/-- The variables of the method itself are no others, and those of the fields are told apart by their
names with a small letter in front. -/
theorem nodup_methodVariables (x : Model) : (methodVariables x).Nodup ↔
    ((lowered x).map marked).Nodup ∧
      ∀ f ∈ x.fields, isSingle f = true → localName f.name ++ "Item" ∉ lowered x := by
  have hown : ∀ n ∈ ["dto", "valid", "validated", "item", "element"], n ∈ templateLocals := by
    decide
  have hothers : ∀ n ∈ (lowered x).map marked ++
      (x.fields.filter isSingle).map (fun f => localName f.name ++ "Item"), ¬Avoided n := by
    intro n hn
    rcases List.mem_append.mp hn with hn | hn
    · obtain ⟨l, -, rfl⟩ := List.mem_map.mp hn
      exact not_avoided_marked l
    · obtain ⟨f, -, rfl⟩ := List.mem_map.mp hn
      exact not_avoided_item _
  have hitems : (∀ f ∈ x.fields, isSingle f = true → localName f.name ++ "Item" ∉ lowered x) ↔
      ∀ a ∈ (lowered x).map marked,
        ∀ b ∈ (x.fields.filter isSingle).map (fun f => localName f.name ++ "Item"), a ≠ b := by
    simp only [List.mem_map, List.mem_filter]
    constructor
    · rintro h - ⟨n, hn, rfl⟩ - ⟨f, ⟨hf, hsingle⟩, rfl⟩ heq
      exact h f hf hsingle (marked_eq_item_iff.mp heq ▸ hn)
    · intro h f hf hsingle hmem
      exact h _ ⟨_, hmem, rfl⟩ _ ⟨f, ⟨hf, hsingle⟩, rfl⟩ (marked_eq_item_iff.mpr rfl)
  have hperm : (methodVariables x).Perm (["dto", "valid", "validated", "item", "element"] ++
      ((lowered x).map marked ++
        (x.fields.filter isSingle).map fun f => localName f.name ++ "Item")) :=
    map_localName x ▸ (flatMap_fieldVariables_perm x.fields).append_left _
  rw [hperm.nodup_iff, List.nodup_append, List.nodup_append, ← hitems]
  constructor
  · rintro ⟨-, ⟨hlocals, -, hitems⟩, -⟩
    exact ⟨hlocals, hitems⟩
  · rintro ⟨hlocals, hitems⟩
    refine ⟨by decide, ⟨hlocals, ?_, hitems⟩, fun a ha b hb heq => ?_⟩
    · rw [← map_localName] at hlocals
      have hlocals' : ((x.fields.map fun f => localName f.name).map (· ++ "Item")).Nodup :=
        hlocals.map fun a b heq => (String.append_left_inj _).mp heq
      rw [List.map_map] at hlocals'
      exact hlocals'.sublist (List.filter_sublist.map _)
    · exact hothers b hb (.inr (heq ▸ hown a ha))

theorem lowerFirst_of_ascii {n : String} {c : Char} {r : List Char} (hn : n.toList = c :: r)
    (hc : c.toNat < 0x80) : (lowerFirst n).toList = Text.lowerChar c :: r := by
  have hchars : Text.lowerChars [c] = [Text.lowerChar c] := by
    rw [Text.lowerChars, Text.lowerFrom, Text.lowerAt_of_ascii hc]
    rfl
  rw [lowerFirst, hn]
  simp [hchars]

/-- Fields that have a letter or digit in their names keep different ones with a small letter in front.
-/
theorem nodup_lowered {x : Model} (hworded : ∀ f ∈ x.fields, Name.words f.name ≠ []) :
    (lowered (Language.csharp.style.refineModel x)).Nodup := by
  have hnames : lowered (Language.csharp.style.refineModel x) =
      (Language.csharp.style.fieldNames x.fields).map lowerFirst := by
    rw [lowered, ← Style.map_name_refineModel, List.map_map]
    rfl
  rw [hnames]
  refine List.Nodup.map_on (fun m hm n hn heq => ?_) (Language.nodup_fieldNames _ _)
  obtain ⟨c, r, hm', hc, hc'⟩ := Language.head_of_mem_fieldNames hworded hm
  obtain ⟨d, s, hn', hd, hd'⟩ := Language.head_of_mem_fieldNames hworded hn
  have hlist := congrArg String.toList heq
  rw [lowerFirst_of_ascii hm' hc, lowerFirst_of_ascii hn' hd, List.cons.injEq] at hlist
  obtain ⟨hhead, rfl⟩ := hlist
  refine String.toList_inj.mp ?_
  rw [hm', hn', Text.lowerChar_inj hc hd hc' hd' hhead]

/-- The method that validates declares the variables of a refined model, and they have different names
just if three things do not happen: two fields differ in the case of their first letter only, a field
is called like one whose name had to be changed, with `Value` behind it, or like the variable of a
single value, with `Item` behind it.  The first of them takes a field without any letter or digit of
ASCII in its name. -/
theorem variables_apart_iff (x : Model) (o : Options) :
    let refined := Language.csharp.style.refineModel x
    (∃ a body, Emission.model .csharp o refined = .ok a ∧
      a.content = render (opening o refined.name (usings o (modelUsings refined)) ++
        inNamespace o body) ∧
      tryCreateLines o refined <:+: body ∧
      IntroducesAll (tryCreateLines o refined)
        (["dto", "validated", "valid"] ++
          refined.fields.flatMap fun f => fieldVariables f ++ loopVariables f)) ∧
    ((methodVariables refined).Nodup ↔
      (lowered refined).Nodup ∧ ∀ f ∈ refined.fields,
        (Avoided (lowerFirst f.name) → lowerFirst f.name ++ "Value" ∉ lowered refined) ∧
        (isSingle f = true → localName f.name ++ "Item" ∉ lowered refined)) ∧
    ((∀ f ∈ x.fields, Name.words f.name ≠ []) → (lowered refined).Nodup) := by
  intro refined
  refine ⟨?_, ?_, nodup_lowered⟩
  · obtain ⟨a, ha⟩ := model_ok (l := .csharp) (o := o) refined
    obtain ⟨lines, hlines, h⟩ := of_bind_eq_ok ha
    obtain ⟨back, -, hlines⟩ := of_bind_eq_ok hlines
    cases hlines
    cases h
    exact ⟨_, _, ha, rfl, tryCreateLines_infix o refined back, tryCreateLines_introduces o refined⟩
  · rw [nodup_methodVariables, nodup_marked_iff, and_assoc]
    refine and_congr_right fun _ => ?_
    rw [lowered, List.forall_mem_map, ← forall₂_and]

/-- A model of which one field is called like the variable that another one needs. -/
def basket : Model where
  name := "basket"
  fields := ["egg", "eggItem"].map fun n =>
    { name := n, dataType := { name := "egg size", kind := .int32 } }

theorem basket_shares :
    let refined := Language.csharp.style.refineModel basket
    (∃ a, Emission.model .csharp {} refined = .ok a) ∧ (lowered refined).Nodup ∧
      ¬(methodVariables refined).Nodup := by
  intro refined
  obtain ⟨⟨a, _, ha, -⟩, hapart, hlowered⟩ := variables_apart_iff basket {}
  refine ⟨⟨a, ha⟩, hlowered (by decide), fun h => ?_⟩
  have hegg := (hapart.mp h).2 (refined.fields.head (by decide)) (List.head_mem _)
  exact hegg.2 (by decide) (by decide)

end Typewright.Emission.CSharp
