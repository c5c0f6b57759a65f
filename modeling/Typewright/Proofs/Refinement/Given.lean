/-
# What names refining gives

Only names of fields are compared with the members of generated types.  A field gets a name that is
not reserved, whether or not it is numbered (`not_reserved_of_mem_fieldNames`).  A type of C# gets its
Pascal case spelling and nothing else (`csharp_typeName`): the words that are reserved for types start
with a small letter, so none of them is a spelling in Pascal case, and the underscore that marks them
is never set.
-/
import Typewright.Proofs.Refinement.Members

namespace Typewright.Language

open Name (numbered pascal)

variable {l : Language} {n : String}

/-! ## Types of C# -/

theorem csharp_typeName (n : String) : csharp.style.typeName n = pascal n := by
  show Style.avoid csharp.reservedTypes (pascal n) = pascal n
  refine Style.avoid_of_not_mem fun hmem => ?_
  have hkeyword : pascal n ∈ csharp.keywords := (List.mem_append.mp hmem).resolve_right
    List.not_mem_nil
  by_cases hword : Name.wordChars n.toList = []
  · rw [pascal_of_wordless hword] at hkeyword
    exact wordChars_ne_nil_of_reserved (List.mem_append_left _ hkeyword) hword
  · exact not_keyword (isPascal_pascal hword) hkeyword

/-- What Pascal case changes is the name of no type. -/
theorem csharp_typeName_ne {r : String} (h : pascal r ≠ r) (n : String) :
    csharp.style.typeName n ≠ r := by
  rw [csharp_typeName]
  rintro rfl
  exact h (Name.pascal_pascal n)

/-! ## Fields -/

theorem getLast?_of_reserved : ∀ l : Language, ∀ n ∈ l.reservedFields,
    n.toList.getLast? ≠ some '_'
  | .csharp => by decide
  | .python => by decide

theorem fieldName_eq_avoid : ∀ (l : Language) (n : String),
    l.style.fieldName n = Style.avoid l.reservedFields (l.style.fieldCase n)
  | .csharp, _ => rfl
  | .python, _ => rfl

theorem fieldName_not_reserved (l : Language) (n : String) :
    l.style.fieldName n ∉ l.reservedFields := by
  rw [fieldName_eq_avoid]
  by_cases h : l.style.fieldCase n ∈ l.reservedFields
  · rw [Style.avoid_of_mem h]
    exact fun hmem => getLast?_of_reserved l _ hmem (by simp)
  · rwa [Style.avoid_of_not_mem h]

/-- A field of a model gets its name in the style, or that with a number. -/
theorem exists_of_mem_fieldNames {fields : List Field} (h : n ∈ l.style.fieldNames fields) :
    ∃ f ∈ fields, n = l.style.fieldName f.name ∨
      ∃ k, n = numbered (l.style.fieldName f.name) k := by
  obtain ⟨b, hb, hn⟩ := Name.mem_freshAll h
  obtain ⟨f, hf, rfl⟩ := List.mem_map.mp hb
  exact ⟨f, hf, hn⟩

/-- No field of a model gets a reserved name. -/
theorem not_reserved_of_mem_fieldNames {fields : List Field}
    (h : n ∈ l.style.fieldNames fields) : n ∉ l.reservedFields := by
  obtain ⟨f, -, rfl | ⟨k, rfl⟩⟩ := exists_of_mem_fieldNames h
  · exact fieldName_not_reserved l f.name
  · exact numbered_not_reserved l _ k

/-- A field of C# that has a letter or digit in its name gets one that starts with an ASCII character
other than a small letter. -/
theorem head_of_mem_fieldNames {fields : List Field}
    (hworded : ∀ f ∈ fields, Name.words f.name ≠ []) (h : n ∈ csharp.style.fieldNames fields) :
    ∃ c r, n.toList = c :: r ∧ c.toNat < 0x80 ∧ ¬Text.isAsciiLower c = true := by
  obtain ⟨f, hf, hn⟩ := exists_of_mem_fieldNames h
  have hwords : Name.wordChars f.name.toList ≠ [] := fun hnil =>
    hworded f hf (by rw [Name.words, hnil, List.map_nil])
  obtain ⟨c, r, hpascal, hc⟩ := (isPascal_pascal hwords).head
  obtain ⟨ending, hname⟩ : ∃ ending, csharp.style.fieldName f.name = pascal f.name ++ ending := by
    rw [csharp_fieldName]
    split
    · exact ⟨"_", rfl⟩
    · exact ⟨"", String.append_empty.symm⟩
  have hlist : ∀ rest : String, (csharp.style.fieldName f.name ++ rest).toList =
      c :: (r ++ ending.toList ++ rest.toList) := fun rest => by
    rw [hname, String.toList_append, String.toList_append, hpascal]
    rfl
  rcases hn with rfl | ⟨k, rfl⟩
  · exact ⟨c, _, String.append_empty (s := csharp.style.fieldName f.name) ▸ hlist "", hc⟩
  · exact ⟨c, _, hlist (Nat.repr k), hc⟩

/-- The fields of a model get different names. -/
theorem nodup_fieldNames (s : Style) (fields : List Field) : (s.fieldNames fields).Nodup := by
  rw [Style.fieldNames_eq]
  exact (Name.freshAll_apart [] _).1

end Typewright.Language
