/-
# What the types of C# files declare

A type declares a member by a line of its body that starts a declaration, and there are eight forms of
such lines (`Declares`).  The lines of documentation, attributes and bodies of methods start none, so
what a body declares is found by looking at the remaining ones (`DeclaresAll`), part by part: the
constants of a wrapping type (`BecomeAll.declares`), the properties of a record
(`propertyLines_declares`), and those of a boundary type (`separated_declares`).
-/
import Mathlib.Data.List.Forall2
import Typewright.Proofs.Emission.Indentation

namespace Typewright.Emission.CSharp

/-! ## Lines that declare -/

/-- Whether a line of the body of a type starts a declaration. -/
def isDeclaration (line : String) : Bool :=
  "    public ".toList.isPrefixOf line.toList || "    private ".toList.isPrefixOf line.toList

/-- The declarations in bodies of types, with the members that they declare.  A constructor is no
member. -/
inductive Declares : String → List String → Prop
  | constant (type name value : String) :
      Declares ("    private const " ++ type ++ " " ++ name ++ " = " ++ value ++ ";") [name]
  | shared (type name value : String) :
      Declares ("    private static readonly " ++ type ++ " " ++ name ++ " = " ++ value ++ ";") [name]
  | stored (type name : String) :
      Declares ("    private readonly " ++ type ++ " " ++ name ++ ";") [name]
  | computed (type name value : String) :
      Declares ("    public " ++ type ++ " " ++ name ++ " => " ++ value ++ ";") [name]
  | overridden (type name value : String) :
      Declares ("    public override " ++ type ++ " " ++ name ++ "() => " ++ value ++ ";") [name]
  | property (type name : String) :
      Declares ("    public " ++ type ++ " " ++ name ++ " \x7b get; init; \x7d") [name]
  | method (type name parameters : String) :
      Declares ("    public static " ++ type ++ " " ++ name ++ "(" ++ parameters ++ ")") [name]
  | constructor (type parameters : String) :
      Declares ("    private " ++ type ++ "(" ++ parameters ++ ")") []

/-- All declarations of a body, in their order, declare some members. -/
def DeclaresAll (body members : List String) : Prop :=
  ∃ declared, List.Forall₂ Declares (body.filter isDeclaration) declared ∧
    declared.flatten = members

section Lines

variable {line line' : String} {own body body' members members' : List String}

theorem isDeclaration_eq (line : String) : isDeclaration line =
    ([' ', ' ', ' ', ' ', 'p', 'u', 'b', 'l', 'i', 'c', ' '].isPrefixOf line.toList ||
      [' ', ' ', ' ', ' ', 'p', 'r', 'i', 'v', 'a', 't', 'e', ' '].isPrefixOf line.toList) := by
  simp [isDeclaration]

theorem Declares.isDeclaration (h : Declares line own) : isDeclaration line = true := by
  cases h <;> simp [isDeclaration_eq, List.isPrefixOf]

theorem Declares.congr (h : Declares line own) (heq : line'.toList = line.toList) :
    Declares line' own :=
  String.toList_inj.mp heq ▸ h

namespace DeclaresAll

theorem nil : DeclaresAll [] [] := ⟨[], .nil, rfl⟩

theorem append (h : DeclaresAll body members) (h' : DeclaresAll body' members') :
    DeclaresAll (body ++ body') (members ++ members') := by
  obtain ⟨declared, hlines, rfl⟩ := h
  obtain ⟨declared', hlines', rfl⟩ := h'
  refine ⟨declared ++ declared', ?_, List.flatten_append⟩
  rw [List.filter_append]
  exact List.rel_append hlines hlines'

/-- A body of which one line declares something. -/
theorem of_filter_eq (h : body.filter isDeclaration = [line]) (hline : Declares line own) :
    DeclaresAll body own := by
  refine ⟨[own], ?_, List.flatten_singleton⟩
  rw [h]
  exact .cons hline .nil

/-- Lines that declare nothing do not matter. -/
theorem of_filter (h : DeclaresAll body members)
    (heq : body'.filter isDeclaration = body.filter isDeclaration) : DeclaresAll body' members := by
  obtain ⟨declared, hlines, hmembers⟩ := h
  exact ⟨declared, heq ▸ hlines, hmembers⟩

theorem flatMap {α : Type} {f : α → List String} {g : α → String} {xs : List α}
    (h : ∀ x ∈ xs, DeclaresAll (f x) [g x]) : DeclaresAll (xs.flatMap f) (xs.map g) := by
  induction xs with
  | nil => exact nil
  | cons x xs ih =>
      exact (h x List.mem_cons_self).append (ih fun y hy => h y (List.mem_cons_of_mem x hy))

end DeclaresAll

/-! ## Lines that declare nothing -/

theorem eq_of_mem_summary {pad : String} {doc : List String} (h : line ∈ summary pad doc) :
    ∃ rest, line = pad ++ "/// " ++ rest := by
  unfold summary at h
  split at h
  · exact absurd h List.not_mem_nil
  · simp only [List.mem_append, List.mem_cons, List.not_mem_nil, or_false, List.mem_map] at h
    rcases h with (rfl | ⟨l, -, rfl⟩) | rfl
    · exact ⟨"<summary>", by rw [String.append_assoc]; rfl⟩
    · exact ⟨markup l, rfl⟩
    · exact ⟨"</summary>", by rw [String.append_assoc]; rfl⟩

/-- Documentation declares nothing, in front of a type or in front of a member. -/
theorem filter_summary (doc : List String) : (summary "" doc).filter isDeclaration = [] ∧
    (summary "    " doc).filter isDeclaration = [] := by
  constructor <;> refine List.filter_eq_nil_iff.mpr fun line hline => ?_
  all_goals
    obtain ⟨rest, rfl⟩ := eq_of_mem_summary hline
    simp [isDeclaration_eq, List.isPrefixOf]

theorem filter_onlyIf (p : String → Bool) (b : Bool) (lines : List String) :
    (onlyIf b lines).filter p = onlyIf b (lines.filter p) := by
  cases b <;> rfl

theorem onlyIf_nil (b : Bool) : onlyIf b [] = [] := by
  cases b <;> rfl

end Lines

/-! ## Wrapping types -/

section Primitive

variable {o : Options} {t : DataType} {taken : List String}

/-- What the constant of a constraint is called, unless that is taken. -/
def constantBase? : Constraint → Option String
  | .required => none
  | c => some (memberBase c)

/-- What a constraint becomes declares its constant. -/
theorem Becomes.declares {type name : String} {c : Constraint} {k : Check}
    (h : Becomes t type name c k) :
    constantBase? c = some (memberBase c) ∧ Declares ("    " ++ k.member.declaration) [name] := by
  cases h with
  | @pattern regex =>
      exact ⟨rfl, (Declares.shared "Regex" name
        ("new(" ++ verbatim regex ++ ", RegexOptions.Compiled)")).congr (by simp)⟩
  | @length _ _ limit => exact ⟨rfl, (Declares.constant "int" name limit).congr (by simp)⟩
  | @bound _ _ _ bound => exact ⟨rfl, (Declares.constant type name bound).congr (by simp)⟩
  | @allowed _ members =>
      exact ⟨rfl, (Declares.shared ("HashSet<" ++ type ++ ">") name
        ("new() \x7b " ++ Text.join ", " members ++ " \x7d")).congr (by simp)⟩

theorem filter_memberLines {m : Member} (h : isDeclaration ("    " ++ m.declaration) = true) :
    (memberLines "" o m).filter isDeclaration = ["    " ++ m.declaration] := by
  have hmarker : isDeclaration ("    [" ++ m.marker ++ "]") = false := by
    simp [isDeclaration_eq, List.isPrefixOf]
  have hblank : isDeclaration "" = false := by decide
  simp [memberLines, filter_onlyIf, h, hmarker, hblank, onlyIf_nil]

theorem memberLines_declares {m : Member} {name : String}
    (h : Declares ("    " ++ m.declaration) [name]) : DeclaresAll (memberLines "" o m) [name] :=
  .of_filter_eq (filter_memberLines h.isDeclaration) h

/-- The constants of a type have the names of their constraints, each made free by a number where it
is taken. -/
theorem BecomeAll.declares {type : String} {cs : List Constraint} {made : List Check}
    (h : BecomeAll t type taken cs made) :
    DeclaresAll (made.flatMap fun k => memberLines "" o k.member)
      (Name.freshAll taken (cs.filterMap constantBase?)) := by
  induction h with
  | nil => exact .nil
  | required _ ih => exact ih
  | member hk _ ih =>
      obtain ⟨hbase, hdeclares⟩ := hk.declares
      rw [List.filterMap_cons_some hbase, List.flatMap_cons, Name.freshAll]
      exact (memberLines_declares hdeclares).append ih

theorem filter_primitiveLines (o : Options) (t : DataType) (type : String) (cs : List Check) :
    (primitiveLines "" o t type cs).filter isDeclaration =
      (cs.flatMap fun k => memberLines "" o k.member).filter isDeclaration ++
        ["    private readonly " ++ type ++ " value;",
          "    public " ++ type ++ " Value => value;",
          "    private " ++ t.name ++ "(" ++ type ++ " value)",
          "    public static bool TryCreate(" ++ type ++ "? input, out " ++ t.name ++ " validated)",
          "    public static " ++ t.name ++ " Create(" ++ type ++ "? input)",
          "    public override string ToString() => " ++
            (if type == "string" then "value" else "value.ToString()") ++ ";"] := by
  simp [primitiveLines, filter_summary, filter_onlyIf, onlyIf_nil, isDeclaration_eq, List.isPrefixOf]

theorem primitiveLines_declares (o : Options) {type : String} {cs : List Check}
    (h : BecomeAll t type taken t.constraints cs) :
    DeclaresAll (primitiveLines "" o t type cs)
      (Name.freshAll taken (t.constraints.filterMap constantBase?) ++
        ["value", "Value", "TryCreate", "Create", "ToString"]) := by
  obtain ⟨declared, hlines, hdeclared⟩ := h.declares (o := o)
  refine ⟨declared ++ [["value"], ["Value"], [], ["TryCreate"], ["Create"], ["ToString"]], ?_, ?_⟩
  · rw [filter_primitiveLines]
    refine List.rel_append hlines
      (.cons ?_ (.cons ?_ (.cons ?_ (.cons ?_ (.cons ?_ (.cons ?_ .nil))))))
    · exact (Declares.stored type "value").congr (by simp)
    · exact (Declares.computed type "Value" "value").congr (by simp)
    · exact (Declares.constructor t.name (type ++ " value")).congr (by simp)
    · exact (Declares.method "bool" "TryCreate"
        (type ++ "? input, out " ++ t.name ++ " validated")).congr (by simp)
    · exact (Declares.method t.name "Create" (type ++ "? input")).congr (by simp)
    · exact (Declares.overridden "string" "ToString"
        (if type == "string" then "value" else "value.ToString()")).congr (by simp)
  · rw [List.flatten_append, hdeclared]
    rfl

end Primitive

/-! ## Records -/

section Record

variable {x : Model}

theorem filter_validationLines (f : Field) : (validationLines f).filter isDeclaration = [] := by
  unfold validationLines
  cases f.isCollection <;> cases f.dataType.isReference <;>
    simp [filter_onlyIf, onlyIf_nil, isDeclaration_eq, List.isPrefixOf]

theorem propertyLines_declares (o : Options) (f : Field) :
    DeclaresAll (propertyLines o f) [f.name] := by
  have hline : (propertyLines o f).filter isDeclaration =
      ["    public " ++ (if f.isNullable then "" else "required ") ++ propertyType f ++
        (if f.isNullable then "?" else "") ++ " " ++ f.name ++ " \x7b get; init; \x7d"] := by
    simp [propertyLines, filter_summary, isDeclaration_eq, List.isPrefixOf]
  have hproperty := Declares.property ((if f.isNullable then "" else "required ") ++
    propertyType f ++ (if f.isNullable then "?" else "")) f.name
  exact .of_filter_eq hline (hproperty.congr (by simp))

theorem filter_modelLines (o : Options) (x : Model) (back : List String) :
    (modelLines o x back).filter isDeclaration =
      (x.fields.flatMap (propertyLines o)).filter isDeclaration ++
        ["    public static bool TryCreate(" ++ dtoType o x.name ++ "? dto, out " ++ x.name ++
            "? validated)",
          "    public static " ++ x.name ++ " Create(" ++ dtoType o x.name ++ "? dto)",
          "    public static " ++ dtoType o x.name ++ " ToDTO(" ++ x.name ++ " model)"] := by
  have hvalidation : (x.fields.flatMap validationLines).filter isDeclaration = [] := by
    rw [List.filter_flatMap]
    exact List.flatMap_eq_nil_iff.mpr fun f _ => filter_validationLines f
  have hmade : (x.fields.map fun f => "            " ++ f.name ++ " = " ++ assigned f ++ ",").filter
      isDeclaration = [] := by
    refine List.filter_eq_nil_iff.mpr fun line hline => ?_
    obtain ⟨f, -, rfl⟩ := List.mem_map.mp hline
    simp [isDeclaration_eq, List.isPrefixOf]
  have hback : ((x.fields.zip back).map fun p => "            " ++ p.1.name ++ " = " ++ p.2 ++
      ",").filter isDeclaration = [] := by
    refine List.filter_eq_nil_iff.mpr fun line hline => ?_
    obtain ⟨p, -, rfl⟩ := List.mem_map.mp hline
    simp [isDeclaration_eq, List.isPrefixOf]
  simp only [modelLines, List.filter_append, filter_summary, filter_onlyIf, hvalidation, hmade,
    hback]
  simp [onlyIf_nil, isDeclaration_eq, List.isPrefixOf]

theorem modelLines_declares (o : Options) (x : Model) (back : List String) :
    DeclaresAll (modelLines o x back)
      (x.fields.map (·.name) ++ ["TryCreate", "Create", "ToDTO"]) := by
  have hfields : DeclaresAll (x.fields.flatMap (propertyLines o)) (x.fields.map (·.name)) :=
    .flatMap fun f _ => propertyLines_declares o f
  obtain ⟨declared, hlines, hdeclared⟩ := hfields
  refine ⟨declared ++ [["TryCreate"], ["Create"], ["ToDTO"]], ?_, ?_⟩
  · rw [filter_modelLines]
    refine List.rel_append hlines (.cons ?_ (.cons ?_ (.cons ?_ .nil)))
    · exact (Declares.method "bool" "TryCreate" (dtoType o x.name ++ "? dto, out " ++ x.name ++
        "? validated")).congr (by simp)
    · exact (Declares.method x.name "Create" (dtoType o x.name ++ "? dto")).congr (by simp)
    · exact (Declares.method (dtoType o x.name) "ToDTO" (x.name ++ " model")).congr (by simp)
  · rw [List.flatten_append, hdeclared]
    rfl

/-! ## Boundary types -/

/-- The lines of the boundary type of a model, outside of its namespace. -/
def dtoLines (o : Options) (x : Model) (types : List String) : List String :=
  summary "" (documentation o x.description) ++ ["public record " ++ x.name, "\x7b"] ++
    indented "    "
      (separated ((x.fields.zip types).map fun p => dtoPropertyLines o p.1 p.2)) ++
    ["\x7d"]

theorem dtoPropertyLines_declares (o : Options) (f : Field) (type : String) :
    DeclaresAll (indented "    " (dtoPropertyLines o f type)) [f.name] := by
  have hwire : (indented "    " (onlyIf (f.wireName != f.name)
      ["[JsonPropertyName(" ++ literal f.wireName ++ ")]"])).filter isDeclaration = [] := by
    unfold onlyIf
    split <;> simp [indented, indentLine, isDeclaration_eq, List.isPrefixOf]
  have hparts : indented "    " (dtoPropertyLines o f type) =
      summary "    " (documentation o f.description) ++
        indented "    " (onlyIf (f.wireName != f.name)
          ["[JsonPropertyName(" ++ literal f.wireName ++ ")]"]) ++
        indented "    " ["public " ++ type ++ " " ++ f.name ++ " \x7b get; init; \x7d"] := by
    rw [dtoPropertyLines, indented_append, indented_append, indented_summary]
  have hline : (indented "    " (dtoPropertyLines o f type)).filter isDeclaration =
      ["    " ++ ("public " ++ type ++ " " ++ f.name ++ " \x7b get; init; \x7d")] := by
    rw [hparts, List.filter_append, List.filter_append, (filter_summary _).2, hwire]
    simp [indented, indentLine, isDeclaration_eq, List.isPrefixOf]
  exact .of_filter_eq hline ((Declares.property type f.name).congr (by simp))

/-- Blocks declare what they declare, with empty lines between them. -/
theorem separated_declares {blocks : List (List String)} {names : List String}
    (h : List.Forall₂ (fun b n => DeclaresAll (indented "    " b) [n]) blocks names) :
    DeclaresAll (indented "    " (separated blocks)) names := by
  fun_induction separated blocks generalizing names with
  | case1 =>
      cases h
      exact .nil
  | case2 b =>
      obtain ⟨n, r, hb, hr, rfl⟩ := List.forall₂_cons_left_iff.mp h
      cases hr
      exact hb
  | case3 b c r ih =>
      obtain ⟨n, names, hb, hr, rfl⟩ := List.forall₂_cons_left_iff.mp h
      refine (hb.append (ih hr)).of_filter ?_
      have hblank : isDeclaration "" = false := by decide
      simp [indented, indentLine, hblank]

theorem dtoLines_declares (o : Options) {types : List String}
    (h : types.length = x.fields.length) :
    DeclaresAll (dtoLines o x types) (x.fields.map (·.name)) := by
  have hfields : x.fields = (x.fields.zip types).map Prod.fst :=
    (List.map_fst_zip (Nat.le_of_eq h.symm)).symm
  have hproperties : DeclaresAll (indented "    " (separated ((x.fields.zip types).map
      fun p => dtoPropertyLines o p.1 p.2))) (x.fields.map (·.name)) := by
    refine separated_declares ?_
    conv => rhs; rw [hfields]
    rw [List.map_map, List.forall₂_map_left_iff, List.forall₂_map_right_iff, List.forall₂_same]
    exact fun p _ => dtoPropertyLines_declares o p.1 p.2
  refine hproperties.of_filter ?_
  have hhead : ["public record " ++ x.name, "\x7b"].filter isDeclaration = [] := by
    simp [isDeclaration_eq, List.isPrefixOf]
  have hend : ["\x7d"].filter isDeclaration = [] := by decide
  rw [dtoLines, List.filter_append, List.filter_append, List.filter_append, (filter_summary _).1,
    hhead, hend, List.append_nil, List.append_nil, List.nil_append]

end Record

end Typewright.Emission.CSharp
