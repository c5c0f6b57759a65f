/-
# The fields of a refined model can be declared

A field is named in three steps, and none of them spoils what those before it achieved.  The spelling
of a name with a letter or a digit is an identifier (`isPlainIdentifier_fieldCase`).  The underscore
that marks a reserved name and the number that keeps a name apart keep an identifier one, and both
lead out of the reserved names, since none of these ends in an underscore or in a digit.
-/
import Typewright.Proofs.Name.Identifier
import Typewright.Proofs.Refinement.Given

namespace Typewright

open Name (isPlainIdentifier)

namespace Language

variable {l : Language} {n : String}

/-! ## One field -/

/-- The spelling of a name with a letter or a digit is an identifier. -/
theorem isPlainIdentifier_fieldCase (l : Language)
    (h : ∃ c ∈ n.toList, Text.isWordChar c = true) :
    isPlainIdentifier (l.style.fieldCase n).toList = true := by
  obtain ⟨c, hc, hword⟩ := h
  cases l with
  | csharp =>
      show isPlainIdentifier (Name.pascal n).toList = true
      rw [Name.pascal, String.toList_ofList]
      exact (Name.isPascal_pascalChars (Text.stretches_ne_nil hc hword)).isPlainIdentifier
  | python =>
      exact (Name.isSnake_snake (Name.snakeWords_ne_nil hc hword)).isPlainIdentifier

theorem isPlainIdentifier_fieldName (l : Language)
    (h : ∃ c ∈ n.toList, Text.isWordChar c = true) :
    isPlainIdentifier (l.style.fieldName n).toList = true := by
  have hcase := isPlainIdentifier_fieldCase l h
  rw [fieldName_eq_avoid]
  by_cases hmem : l.style.fieldCase n ∈ l.reservedFields
  · rw [Style.avoid_of_mem hmem]
    exact Name.isPlainIdentifier_underscore hcase
  · rwa [Style.avoid_of_not_mem hmem]

/-! ## The fields of a model -/

theorem isPlainIdentifier_fieldNames {fields : List Field}
    (h : ∀ f ∈ fields, ∃ c ∈ f.name.toList, Text.isWordChar c = true)
    (hn : n ∈ l.style.fieldNames fields) : isPlainIdentifier n.toList = true := by
  obtain ⟨f, hf, hname⟩ := exists_of_mem_fieldNames hn
  have hfield := isPlainIdentifier_fieldName l (h f hf)
  rcases hname with rfl | ⟨k, rfl⟩
  · exact hfield
  · exact Name.isPlainIdentifier_numbered hfield k

/-- Where each field of a model has a letter or a digit in its name, the fields of the refined model
have different names, each of them an identifier that is not reserved. -/
theorem refined_fields_declarable (l : Language) (m : Model)
    (h : ∀ f ∈ m.fields, ∃ c ∈ f.name.toList, Text.isWordChar c = true) :
    (l.style.refineModel m).fields.length = m.fields.length ∧
      ((l.style.refineModel m).fields.map (·.name)).Nodup ∧
      ∀ f ∈ (l.style.refineModel m).fields,
        isPlainIdentifier f.name.toList = true ∧ f.name ∉ l.reservedFields := by
  have hnames := Style.map_name_refineModel l.style m
  refine ⟨?_, ?_, fun f hf => ?_⟩
  · rw [← List.length_map, hnames, Style.length_fieldNames]
  · rw [hnames]
    exact nodup_fieldNames l.style m.fields
  · have hf : f.name ∈ l.style.fieldNames m.fields := hnames ▸ List.mem_map_of_mem hf
    exact ⟨isPlainIdentifier_fieldNames h hf, not_reserved_of_mem_fieldNames hf⟩

/-- A model of which the fields collide with each other, with reserved names and with numbered names. -/
def crowdedModel : Model :=
  ⟨"Crowd", ["value", "Value", "value_2", "Value2", "9 lives", "9-lives", "class", "été", "İ_n"].map
    fun n => { name := n, dataType := ⟨"Text", .string, [], none, none, .null⟩ },
    .entity, none, none⟩

theorem crowdedModel_declarable :
    (∀ f ∈ crowdedModel.fields, ∃ c ∈ f.name.toList, Text.isWordChar c = true) ∧
      (csharp.style.refineModel crowdedModel).fields.map (·.name) =
        ["Value_", "Value_2", "Value2", "Value22", "_9Lives", "_9Lives2", "Class", "T", "N"] ∧
      (python.style.refineModel crowdedModel).fields.map (·.name) =
        ["value_", "value_2", "value_22", "value2", "_9_lives", "_9_lives2", "class_", "t", "i_n"] ∧
      ∀ l : Language, ((l.style.refineModel crowdedModel).fields.map (·.name)).Nodup ∧
        ∀ f ∈ (l.style.refineModel crowdedModel).fields,
          isPlainIdentifier f.name.toList = true ∧ f.name ∉ l.reservedFields := by
  have hany : ∀ f ∈ crowdedModel.fields, f.name.toList.any Text.isWordChar = true := by
    decide +kernel
  have hwords : ∀ f ∈ crowdedModel.fields, ∃ c ∈ f.name.toList, Text.isWordChar c = true :=
    fun f hf => List.any_eq_true.mp (hany f hf)
  refine ⟨hwords, by decide +kernel, by decide +kernel, fun l => ?_⟩
  exact (refined_fields_declarable l crowdedModel hwords).2

end Language

end Typewright
