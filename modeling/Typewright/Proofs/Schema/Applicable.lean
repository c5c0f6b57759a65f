/-
# The constraints of a scalar apply to its kind

A facet that does not apply to the kind of a schema is left out with a warning, so patterns and
lengths are given for texts only and bounds for numbers only (`constraints_apply`).  This is shown
facet by facet, in the order in which a schema is read.
-/
import Typewright.Proofs.Schema.Fault

namespace Typewright

/-- The values of a kind can have a constraint of this sort: patterns and lengths are for texts, and
bounds for numbers. -/
def Constraint.AppliesTo (k : Kind) : Constraint → Prop
  | .pattern _ => k.isTextual = true
  | .length .. => k.isTextual = true
  | .bound .. => k.isNumeric = true
  | .required => True
  | .allowed _ => True

/-- A data type that refers to no model and whose constraints apply to its kind. -/
structure DataType.Coherent (t : DataType) : Prop where
  scalar : t.kind ≠ .object
  applies : ∀ c ∈ t.constraints, c.AppliesTo t.kind

namespace Schema

variable {name : String} {schema : Value} {kind : Kind} {side : Side} {t : DataType}

/-- Work that gives values of one sort, if any. -/
abbrev Gives {α : Type} (P : α → Prop) (work : Noting α) : Prop := ComesTo P (fun _ => True) work

theorem unlessFlawed_gives {α : Type} {P : α → Prop} {x : Except Flaw α}
    (h : ∀ a, x = .ok a → P a) : Gives P (unlessFlawed x) := by
  cases x with
  | ok a => exact .pure (h a rfl)
  | error f => exact .throw trivial

theorem tell_gives (w : Warning) : Gives (fun _ => True) (tell w) :=
  (tell_comesTo (G := fun _ => True) fun _ => trivial).mono fun _ _ => trivial

theorem patternConstraint_gives :
    Gives (AllOf (·.AppliesTo kind)) (patternConstraint name schema kind) := by
  unfold patternConstraint
  dsimp only
  split
  · exact .pure .nil
  · split
    · exact (ComesTo.note _).bind fun _ _ => .pure .nil
    · rename_i htextual
      have htextual : kind.isTextual = true := by simpa using htextual
      split
      · exact (tell_gives _).bind fun _ _ => .pure .nil
      · exact .throw trivial
      · refine (unlessFlawed_gives (P := (·.AppliesTo kind)) fun c hc => ?_).bind
          fun c hc => .pure (.one hc)
        obtain ⟨s, -, -, rfl⟩ := ofPattern_ok hc
        exact htextual

theorem lengthConstraint_gives :
    Gives (AllOf (·.AppliesTo kind)) (lengthConstraint name schema kind side) := by
  unfold lengthConstraint
  dsimp only
  split
  · exact .pure .nil
  · split
    · exact (ComesTo.note _).bind fun _ _ => .pure .nil
    · rename_i htextual
      have htextual : kind.isTextual = true := by simpa using htextual
      refine (unlessFlawed_gives (P := (·.AppliesTo kind)) fun c hc => ?_).bind
        fun c hc => .pure (.one hc)
      obtain ⟨n, -, rfl⟩ := ofLength_ok hc
      exact htextual

theorem oneBound_gives {edge : Edge} {given : Bool} {v : Value} (hnumeric : kind.isNumeric = true) :
    Gives (AllOf (·.AppliesTo kind)) (oneBound side edge given v) := by
  unfold oneBound
  split
  · refine (unlessFlawed_gives (P := (·.AppliesTo kind)) fun c hc => ?_).bind
      fun c hc => .pure (.one hc)
    obtain ⟨n, -, rfl⟩ := ofBound_ok hc
    exact hnumeric
  · exact .pure .nil

theorem boundConstraints_gives :
    Gives (AllOf (·.AppliesTo kind)) (boundConstraints name schema kind side) := by
  rw [boundConstraints_eq]
  dsimp only
  split
  · exact .pure .nil
  · split
    · exact (ComesTo.note _).bind fun _ _ => .pure .nil
    · rename_i hnumeric
      have hnumeric : kind.isNumeric = true := by simpa using hnumeric
      exact (oneBound_gives hnumeric).bind fun _ hfirst =>
        (oneBound_gives hnumeric).bind fun _ hsecond => .pure (hfirst.append hsecond)

theorem enumConstraint_gives :
    Gives (AllOf (·.AppliesTo kind)) (enumConstraint name schema) := by
  unfold enumConstraint
  split
  · exact .pure .nil
  · split
    · exact .pure .nil
    · exact .pure (.one trivial)
  · exact (ComesTo.note _).bind fun _ _ => .pure .nil

/-- The constraints that are read from a schema apply to its kind. -/
theorem constraints_apply {cs : List Constraint}
    (h : outcome (constraints name schema kind) = .ok cs) : AllOf (·.AppliesTo kind) cs := by
  have hgives : Gives (AllOf (·.AppliesTo kind)) (constraints name schema kind) := by
    unfold constraints
    refine patternConstraint_gives.bind fun _ hpattern => ?_
    refine lengthConstraint_gives.bind fun _ hmin => ?_
    refine lengthConstraint_gives.bind fun _ hmax => ?_
    refine boundConstraints_gives.bind fun _ hlower => ?_
    refine boundConstraints_gives.bind fun _ hupper => ?_
    refine (@enumConstraint_gives name schema kind).bind fun _ hallowed => ?_
    refine (ComesTo.of_notesOnly (checkSatisfiable_alike name name _).left.notesOnly).bind
      fun _ _ => .pure ?_
    exact ((((hpattern.append hmin).append hmax).append hlower).append hupper).append hallowed
  exact hgives.ok h

end Schema

end Typewright
