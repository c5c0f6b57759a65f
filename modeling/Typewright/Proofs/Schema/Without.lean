/-
# A schema without one of its facets

The facets of a schema are read one after the other, and what one of them gives depends on no other
one.  Patterns and enumerations play no part in the search for constraints that exclude each other
either.  So the work on a schema is that on the schema without its pattern, after what the pattern
itself gives (`othersAfter_nil`, `othersAfter_pattern`), and that on the schema without its
enumeration with the members behind it (`constraints_of_enum`).
-/
import Typewright.Proofs.Schema.Facets

namespace Typewright

/-! ## Mappings without a key -/

namespace Value

/-- A mapping without the entries of a text key. -/
def without (v : Value) (key : String) : Value :=
  match v with
  | .map entries => .map (entries.filter fun e => !e.1.isText key)
  | v => v

variable {v : Value} {key k : String}

theorem get_without_self : (v.without key).get key = .null := by
  cases v with
  | map entries =>
      have hnone : (entries.filter fun e => !e.1.isText key).find? (·.1.isText key) = none := by
        refine List.find?_eq_none.mpr fun e he => ?_
        simpa using (List.mem_filter.mp he).2
      simp [without, get, get?, hnone]
  | _ => rfl

theorem isText_of_isText_ne (hne : k ≠ key) (h : v.isText k = true) : v.isText key = false := by
  cases v with
  | text s =>
      rw [isText, beq_iff_eq] at h
      simpa [isText, h] using hne
  | _ => exact nomatch h

theorem get_without (h : k ≠ key) : (v.without key).get k = v.get k := by
  cases v with
  | map entries =>
      have hsame : (entries.filter fun e => !e.1.isText key).find? (·.1.isText k) =
          entries.find? (·.1.isText k) := by
        rw [List.find?_filter]
        congr 1
        funext e
        cases hk : e.1.isText k with
        | false => simp
        | true => simp [isText_of_isText_ne h hk]
      simp only [without, get, get?, hsame]
  | _ => rfl

end Value

namespace Schema

variable {name s : String} {schema : Value} {kind : Kind} {side : Side}

/-! ## Facets that are the same -/

theorem facet_ne {key : String} (h : key = "pattern" ∨ key = "enum") (side : Side) :
    lengthFacet side ≠ key ∧ boundFacet side ≠ key ∧ exclusiveFacet side ≠ key := by
  rcases h with rfl | rfl <;> cases side <;> decide

theorem lengthConstraint_without {key : String} (h : key = "pattern" ∨ key = "enum") :
    lengthConstraint name (schema.without key) kind side =
      lengthConstraint name schema kind side := by
  unfold lengthConstraint
  rw [Value.get_without (facet_ne h side).1]

theorem boundConstraints_without {key : String} (h : key = "pattern" ∨ key = "enum") :
    boundConstraints name (schema.without key) kind side =
      boundConstraints name schema kind side := by
  obtain ⟨-, hbound, hexclusive⟩ := facet_ne h side
  unfold boundConstraints
  rw [Value.get_without hbound, Value.get_without hexclusive]

section Search

variable {cs cs' : List Constraint}

theorem lengths_append : lengths side (cs ++ cs') = lengths side cs ++ lengths side cs' :=
  List.filterMap_append

theorem bounds_append : bounds side (cs ++ cs') = bounds side cs ++ bounds side cs' :=
  List.filterMap_append

/-- What excludes each other is found among the lengths and the bounds. -/
theorem checkSatisfiable_congr
    (hlengths : ∀ side, lengths side cs = lengths side cs')
    (hbounds : ∀ side, bounds side cs = bounds side cs') :
    checkSatisfiable name cs = checkSatisfiable name cs' := by
  have hempty : emptyLengths? cs = emptyLengths? cs' := by
    simp only [emptyLengths?, hlengths]
  simp only [checkSatisfiable, hempty, hbounds]

end Search

/-! ## The pattern apart from the others -/

/-- The work on the facets that follow the pattern, with the constraint that the pattern gives in
front of theirs. -/
def othersAfter (name : String) (schema : Value) (kind : Kind) (pattern : List Constraint) :
    Noting (List Constraint) := do
  let minLength ← lengthConstraint name schema kind .lower
  let maxLength ← lengthConstraint name schema kind .upper
  let lower ← boundConstraints name schema kind .lower
  let upper ← boundConstraints name schema kind .upper
  let allowed ← enumConstraint name schema
  let cs := pattern ++ minLength ++ maxLength ++ lower ++ upper ++ allowed
  checkSatisfiable name cs
  return cs

theorem constraints_eq : constraints name schema kind =
    patternConstraint name schema kind >>= othersAfter name schema kind := rfl

/-- The constraint that a list of members gives, if one of them is not null. -/
def enumerated (values : List Value) : List Constraint :=
  match values.filter fun v => !v.isNull with
  | [] => []
  | members => [.allowed members]

theorem enumConstraint_list {values : List Value} (h : schema.get "enum" = .list values) :
    enumConstraint name schema = pure (enumerated values) := by
  unfold enumConstraint enumerated
  rw [h]
  dsimp only
  cases values.filter fun v => !v.isNull <;> rfl

/-- Only an enumeration without members gives no constraint. -/
theorem mem_enumerated {values : List Value} {v : Value}
    (h : v ∈ values.filter fun v => !v.isNull) :
    .allowed (values.filter fun v => !v.isNull) ∈ enumerated values := by
  unfold enumerated
  split
  · rename_i hnone
    exact absurd (hnone ▸ h) List.not_mem_nil
  · exact List.mem_singleton_self _

/-- The members of an enumeration stand behind what the other facets give, and nothing is noted about
them. -/
theorem constraints_of_enum {values : List Value} (h : schema.get "enum" = .list values) :
    constraints name schema kind =
      (· ++ enumerated values) <$> constraints name (schema.without "enum") kind := by
  have hpattern : patternConstraint name (schema.without "enum") kind =
      patternConstraint name schema kind := by
    unfold patternConstraint
    rw [Value.get_without (by decide)]
  have hnone : enumConstraint name (schema.without "enum") = pure [] := by
    unfold enumConstraint
    rw [Value.get_without_self]
  have hno : (∀ side, lengths side (enumerated values) = []) ∧
      ∀ side, bounds side (enumerated values) = [] := by
    unfold enumerated
    cases values.filter fun v => !v.isNull <;> exact ⟨fun _ => rfl, fun _ => rfl⟩
  have hcheck : ∀ cs, checkSatisfiable name (cs ++ enumerated values) = checkSatisfiable name cs := by
    intro cs
    refine checkSatisfiable_congr (fun side => ?_) fun side => ?_
    · rw [lengths_append, hno.1, List.append_nil]
    · rw [bounds_append, hno.2, List.append_nil]
  simp only [constraints, hpattern, lengthConstraint_without (.inr rfl),
    boundConstraints_without (.inr rfl), hnone, enumConstraint_list h, map_bind, map_pure, pure_bind,
    hcheck, List.append_nil]

end Schema

end Typewright
