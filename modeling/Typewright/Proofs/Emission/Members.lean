/-
# When a member has the name of its type

The members of a C# type have different names: its constants keep clear of each other and of the
other members by numbers, and a field gets a name that no method has.  That a member also differs from
its type holds for constants only.  Nothing keeps a field from the name of its model, nor a type from
the name of one of its methods, since the names of members are reserved for fields and not for types.
So a type and one of its members share a name exactly where such a pair is given (`members_apart`),
and C# does not allow that.
-/
import Typewright.Proofs.Emission.Declarations
import Typewright.Proofs.Emission.Faults
import Typewright.Proofs.Refinement.Given

namespace Typewright.Emission.CSharp

open Name (numbered)

/-! ## The files of types -/

/-- Lines inside of a namespace, or outside of any. -/
def enclosed : Option String → List String → List String
  | none, lines => lines
  | some n, lines => ["namespace " ++ n, "\x7b"] ++ indented "    " lines ++ ["\x7d"]

/-- A file of a type that uses some namespaces and declares some members. -/
def IsFileOf (o : Options) (a : Artifact) (used : List String) (place : Option String)
    (head name : String) (members : List String) : Prop :=
  ∃ body, a.content = render (opening o name used ++ enclosed place body) ∧
    head ++ name ∈ body ∧ DeclaresAll body members

theorem inNamespace_eq (o : Options) (lines : List String) :
    inNamespace o lines = enclosed (namespaceGiven o) lines := by
  unfold inNamespace enclosed
  cases namespaceGiven o <;> rfl

/-- The members of a wrapping type. -/
def typeMembers (t : DataType) : List String :=
  Name.freshAll [t.name, "Value", "TryCreate", "Create"] (t.constraints.filterMap constantBase?) ++
    ["value", "Value", "TryCreate", "Create", "ToString"]

/-- The members of the record of a model. -/
def modelMembers (x : Model) : List String :=
  x.fields.map (·.name) ++ ["TryCreate", "Create", "ToDTO"]

/-- The members of the boundary type of a model. -/
def dtoMembers (x : Model) : List String := x.fields.map (·.name)

section Files

variable {o : Options} {a : Artifact}

theorem primitive_declares {t : DataType} (h : Emission.primitive .csharp o t = .ok a) :
    IsFileOf o a (usings o (primitiveUsings t)) (namespaceGiven o) "public readonly record struct "
      t.name (typeMembers t) := by
  obtain ⟨type, cs, lines, -, hbecome, rfl, -, hcontent⟩ := primitive_ok h
  rw [placedLines_eq, inNamespace_eq] at hcontent
  refine ⟨_, hcontent, ?_, primitiveLines_declares o hbecome⟩
  simp [primitiveLines]

theorem model_declares {x : Model} (h : Emission.model .csharp o x = .ok a) :
    IsFileOf o a (usings o (modelUsings x)) (namespaceGiven o) "public sealed record " x.name
      (modelMembers x) := by
  obtain ⟨lines, hlines, h⟩ := of_bind_eq_ok h
  obtain ⟨back, -, hlines⟩ := of_bind_eq_ok hlines
  cases hlines
  cases h
  rw [inNamespace_eq]
  refine ⟨_, rfl, ?_, modelLines_declares o x back⟩
  simp [modelLines]

theorem dto_declares {x : Model} (h : Emission.dto .csharp o x = .ok a) :
    IsFileOf o a (usings o (dtoUsings x)) (some (dtoNamespace o)) "public record " x.name
      (dtoMembers x) := by
  obtain ⟨lines, hlines, h⟩ := of_bind_eq_ok h
  obtain ⟨types, htypes, hlines⟩ := of_bind_eq_ok hlines
  cases hlines
  cases h
  have hlen : types.length = x.fields.length := by
    have hunits := map_eq_of_mapM (p := fun _ => ()) (q := fun _ => ()) (fun _ => rfl) htypes
    simpa using congrArg List.length hunits
  refine ⟨dtoLines o x types, ?_, ?_, dtoLines_declares o hlen⟩
  · simp [enclosed, dtoLines]
  · simp [dtoLines]

end Files

/-! ## The names of members -/

theorem constantBase_spec {c : Constraint} {b : String} (h : constantBase? c = some b) :
    b ∈ ["Pattern", "MinLength", "MaxLength", "Minimum", "Maximum", "AllowedValues"] := by
  cases c with
  | required => exact nomatch h
  | length side n =>
      cases h
      cases side <;> simp [memberBase]
  | bound side value edge =>
      cases h
      cases side <;> simp [memberBase, Side.boundName]
  | _ =>
      cases h
      simp [memberBase]

/-- No constant of a type is called like the member that holds its value or the one that shows it.
-/
theorem constant_ne {taken : List String} {cs : List Constraint} {n : String}
    (h : n ∈ Name.freshAll taken (cs.filterMap constantBase?)) : n ≠ "value" ∧ n ≠ "ToString" := by
  obtain ⟨b, hb, hn⟩ := Name.mem_freshAll h
  obtain ⟨c, -, hc⟩ := List.mem_filterMap.mp hb
  have hbase := constantBase_spec hc
  rcases hn with rfl | ⟨k, rfl⟩
  · constructor <;>
    · rintro rfl
      exact absurd hbase (by decide)
  · have hdigit := Name.getLast?_numbered b k
    constructor <;>
    · intro heq
      rw [heq] at hdigit
      exact absurd hdigit (by decide)

theorem nodup_typeMembers (t : DataType) : (typeMembers t).Nodup := by
  obtain ⟨hnodup, hfree⟩ := Name.freshAll_apart [t.name, "Value", "TryCreate", "Create"]
    (t.constraints.filterMap constantBase?)
  refine List.nodup_append.mpr ⟨hnodup, by decide, fun n hn r hr heq => ?_⟩
  subst heq
  have htaken := hfree n hn
  have hother := constant_ne hn
  simp_all

/-- The constants of a type are not called like it. -/
theorem name_mem_typeMembers {t : DataType} (h : t.name ≠ "value") :
    t.name ∈ typeMembers t ↔ t.name ∈ ["Value", "TryCreate", "Create", "ToString"] := by
  have hfree : t.name ∉ Name.freshAll [t.name, "Value", "TryCreate", "Create"]
      (t.constraints.filterMap constantBase?) :=
    fun hmem => (Name.freshAll_apart _ _).2 _ hmem List.mem_cons_self
  rw [typeMembers, List.mem_append, or_iff_right hfree, List.mem_cons, or_iff_right h]

section Models

variable {x : Model}

/-- No field is called like a method of its model. -/
theorem nodup_modelMembers (x : Model) :
    (modelMembers (Language.csharp.style.refineModel x)).Nodup := by
  rw [modelMembers, Style.map_name_refineModel]
  refine List.nodup_append.mpr ⟨Language.nodup_fieldNames _ _, by decide, fun n hn r hr heq => ?_⟩
  subst heq
  have hreserved : ∀ r ∈ ["TryCreate", "Create", "ToDTO"], r ∈ Language.csharp.reservedFields := by
    decide
  exact Language.not_reserved_of_mem_fieldNames hn (hreserved n hr)

theorem nodup_dtoMembers (x : Model) : (dtoMembers (Language.csharp.style.refineModel x)).Nodup := by
  rw [dtoMembers, Style.map_name_refineModel]
  exact Language.nodup_fieldNames _ _

/-- A model has a member of its own name as soon as a field is spelled like it, unless that spelling
is reserved for methods. -/
theorem mem_members_of_spelled {f : Field} (hf : f ∈ x.fields)
    (hspelled : Name.pascal f.name = Name.pascal x.name)
    (hmembers : Name.pascal x.name ∉ Language.csharp.members) :
    let refined := Language.csharp.style.refineModel x
    refined.name ∈ modelMembers refined ∧ refined.name ∈ dtoMembers refined := by
  intro refined
  have hclash : ¬Language.Clashes f.name := by rwa [Language.Clashes, hspelled]
  have hname : Language.csharp.style.fieldName f.name = refined.name := by
    show _ = Language.csharp.style.typeName x.name
    rw [Language.csharp_fieldName_of_not_clashes hclash, hspelled, Language.csharp_typeName]
  have hmem : refined.name ∈ refined.fields.map (·.name) := by
    rw [Style.map_name_refineModel, Style.fieldNames_eq, ← hname]
    exact Name.mem_freshAll_of_mem (List.mem_map_of_mem (List.mem_map_of_mem hf)) List.not_mem_nil
  exact ⟨List.mem_append_left _ hmem, hmem⟩

end Models

/-- In refined metadata the members that each generated C# type declares have different names.  One of
them is called like its type just if a data type is called like one of its methods or like the property
of its value, or a model like one of its methods or of its fields. -/
theorem members_apart (m : Metadata) (o : Options) :
    let refined := Refiner.apply [Language.csharp.style] m
    (∀ t ∈ refined.dataTypes, ∀ a, Emission.primitive .csharp o t = .ok a →
      IsFileOf o a (usings o (primitiveUsings t)) (namespaceGiven o) "public readonly record struct "
          t.name (typeMembers t) ∧
        (typeMembers t).Nodup ∧
        (t.name ∈ typeMembers t ↔ t.name ∈ ["Value", "TryCreate", "Create", "ToString"])) ∧
    ∀ x ∈ refined.models,
      (∀ a, Emission.model .csharp o x = .ok a →
        IsFileOf o a (usings o (modelUsings x)) (namespaceGiven o) "public sealed record " x.name
            (modelMembers x) ∧
          (modelMembers x).Nodup ∧
          (x.name ∈ modelMembers x ↔
            x.name ∈ ["TryCreate", "Create", "ToDTO"] ∨ x.name ∈ x.fields.map (·.name))) ∧
      ∀ a, Emission.dto .csharp o x = .ok a →
        IsFileOf o a (usings o (dtoUsings x)) (some (dtoNamespace o)) "public record " x.name
            (dtoMembers x) ∧
          (dtoMembers x).Nodup ∧ (x.name ∈ dtoMembers x ↔ x.name ∈ x.fields.map (·.name)) := by
  intro refined
  constructor
  · intro t ht a ha
    obtain ⟨t, -, rfl⟩ := List.mem_map.mp ht
    refine ⟨primitive_declares ha, nodup_typeMembers _, name_mem_typeMembers ?_⟩
    exact Language.csharp_typeName_ne (by decide) t.name
  · intro x hx
    obtain ⟨x, -, rfl⟩ := List.mem_map.mp hx
    refine ⟨fun a ha => ⟨model_declares ha, nodup_modelMembers x, ?_⟩,
      fun a ha => ⟨dto_declares ha, nodup_dtoMembers x, Iff.rfl⟩⟩
    rw [modelMembers, List.mem_append, or_comm]

/-- A data type that is called like the property of its value. -/
def valueType : DataType := { name := "value", kind := .string, constraints := [.pattern "[a-z]+"] }

/-- A model with a field of its own name. -/
def nameModel : Model := { name := "name", fields := [{ name := "name", dataType := valueType }] }

/-- Both of them have a member of their own name in C#. -/
theorem own_names_declared :
    let t := Language.csharp.style.refineType valueType
    let x := Language.csharp.style.refineModel nameModel
    (∃ a, Emission.primitive .csharp {} t = .ok a ∧
      IsFileOf {} a (usings {} (primitiveUsings t)) none "public readonly record struct " "Value"
        (typeMembers t) ∧
      "Value" ∈ typeMembers t) ∧
    (∃ a, Emission.model .csharp {} x = .ok a ∧
      IsFileOf {} a (usings {} (modelUsings x)) none "public sealed record " "Name" (modelMembers x) ∧
      "Name" ∈ modelMembers x) ∧
    ∃ a, Emission.dto .csharp {} x = .ok a ∧
      IsFileOf {} a (usings {} (dtoUsings x)) (some "DTO") "public record " "Name" (dtoMembers x) ∧
      "Name" ∈ dtoMembers x := by
  intro t x
  obtain ⟨htypes, hmodels⟩ := members_apart ⟨[valueType], [nameModel]⟩ {}
  obtain ⟨hmodel, hdto⟩ := hmodels x List.mem_cons_self
  have hsome : (Emission.primitive .csharp {} t).toOption.any (fun _ => true) = true := by
    decide +kernel
  have ht : t.name = "Value" := by decide
  have hx : x.name = "Name" := by decide
  have hfield : x.name ∈ x.fields.map (·.name) := by decide
  refine ⟨?_, ?_, ?_⟩
  · obtain ⟨a, ha, -⟩ := exists_ok_of_any hsome
    obtain ⟨hfile, -, hmem⟩ := htypes t List.mem_cons_self a ha
    rw [ht] at hfile hmem
    exact ⟨a, ha, hfile, hmem.mpr List.mem_cons_self⟩
  · obtain ⟨a, ha⟩ := model_ok (l := .csharp) (o := {}) x
    obtain ⟨hfile, -, hmem⟩ := hmodel a ha
    exact ⟨a, ha, hx ▸ hfile, hx ▸ hmem.mpr (.inr hfield)⟩
  · obtain ⟨a, ha⟩ := dto_ok (l := .csharp) (o := {}) x
    obtain ⟨hfile, -, hmem⟩ := hdto a ha
    exact ⟨a, ha, hx ▸ hfile, hx ▸ hmem.mpr hfield⟩

end Typewright.Emission.CSharp
