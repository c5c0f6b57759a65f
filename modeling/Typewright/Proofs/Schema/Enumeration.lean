/-
# What an enumeration is worth

The members of an enumeration are kept as they stand, all but null, whatever the kind of the schema
is: other than patterns, lengths and bounds they are not looked at, and no warning is about them
(`members_kept`).  A class that wraps a value of the kind checks the kind first, so a member that is
not of the kind (`Kind.accepts`) can never be wrapped, and a schema all of whose members are such has
a class without values.
-/
import Typewright.Proofs.Schema.Fault
import Typewright.Proofs.Schema.Without

namespace Typewright

namespace Kind

/-- Whether an integer is in the range of an integer kind. -/
def inRange (kind : Kind) (n : Int) : Bool :=
  match kind with
  | .int32 => -0x80000000 ≤ n && n < 0x80000000
  | .int64 => fitsInt64 n
  | _ => false

/-- Whether a value passes the check of its kind that a wrapping class makes first. -/
def accepts : Kind → Value → Bool
  | .string, .text _ => true
  | .byte, .text _ => true
  | .int32, .num (.int n) => int32.inRange n
  | .int64, .num (.int n) => int64.inRange n
  | .float32, v => v.isPlainNumber
  | .float64, v => v.isPlainNumber
  | .decimal, .num _ => true
  | .boolean, .bool _ => true
  | .datetime, .moment _ => true
  | _, _ => false

end Kind

namespace Schema

/-- A value is listed by one of some constraints. -/
def Listed (cs : List Constraint) (v : Value) : Prop := ∃ members, .allowed members ∈ cs ∧ v ∈ members

variable {name : String} {schema v : Value} {kind : Kind} {values : List Value}
  {cs : List Constraint}

/-- The members that are not null are listed, and nothing else is. -/
theorem listed_iff (henum : schema.get "enum" = .list values)
    (h : outcome (constraints name schema kind) = .ok cs) :
    Listed cs v ↔ v ∈ values ∧ v.isNull = false := by
  constructor
  · rintro ⟨members, hmembers, hv⟩
    obtain ⟨values', henum', rfl⟩ := constraints_comesTo.ok h _ hmembers
    rw [henum] at henum'
    cases henum'
    simpa using List.mem_filter.mp hv
  · rintro ⟨hv, hnull⟩
    rw [constraints_of_enum henum, outcome_map] at h
    have hmember : v ∈ values.filter fun v => !v.isNull := List.mem_filter.mpr ⟨hv, by simp [hnull]⟩
    cases hothers : outcome (constraints name (schema.without "enum") kind) with
    | error e =>
        rw [hothers] at h
        exact nomatch h
    | ok others =>
        rw [hothers] at h
        cases h
        exact ⟨_, List.mem_append_right others (mem_enumerated hmember), hmember⟩

/-- The enumeration of a scalar schema takes no part in the warnings, and its members are all listed
but null.  So every listed value passes the check of the kind only where every member does, and
nothing is said where one does not. -/
theorem members_kept (name : String) (schema : Value) (kind : Kind)
    (henum : schema.get "enum" = .list values) :
    let work := constraints name schema kind
    let others := constraints name (schema.without "enum") kind
    work = (· ++ enumerated values) <$> others ∧ notes work = notes others ∧
      ∀ cs, outcome work = .ok cs →
        (∀ v, Listed cs v ↔ v ∈ values ∧ v.isNull = false) ∧
        ((∀ v, Listed cs v → kind.accepts v = true) ↔
          ∀ v ∈ values, v.isNull = false → kind.accepts v = true) := by
  intro work others
  have hwork : work = (· ++ enumerated values) <$> others := constraints_of_enum henum
  refine ⟨hwork, by rw [hwork, notes_map], fun cs h => ⟨fun v => listed_iff henum h, ?_⟩⟩
  simp only [listed_iff henum h, and_imp]

/-- A textual schema that lists truth values, as `yes` and `no` are without quotes. -/
def answers : Value :=
  .record [("type", .text "string"), ("enum", .list [.bool true, .bool false])]

theorem answers_refused :
    notes (constraints "Answer" answers .string) = [] ∧
      outcome (constraints "Answer" answers .string) = .ok [.allowed [.bool true, .bool false]] ∧
      ¬ ∀ v, Listed [.allowed [.bool true, .bool false]] v → Kind.string.accepts v = true := by
  obtain ⟨-, hnotes, hlisted⟩ := members_kept "Answer" answers .string rfl
  refine ⟨hnotes.trans rfl, rfl, fun h => ?_⟩
  exact absurd ((hlisted _ rfl).2.mp h (.bool true) List.mem_cons_self rfl) (by decide)

end Schema

end Typewright
