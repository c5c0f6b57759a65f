/-
# Schemas that leave no value

The bounds of a numeric schema come out as they are written, so that a rational satisfies the
constraints exactly if it satisfies the facets.  Where no rational does, two of the bounds exclude
each other, and a warning tells the first two that do; where no length satisfies the limits of a
textual schema, a warning tells these.  There are no such warnings otherwise (`conflict_told`).

The one thing that goes wrong is the telling.  An integer that is too long has no text, and then the
schema is lost with its warning, instead of being kept with it (`Told`).
-/
import Mathlib.Data.List.Basic
import Typewright.Proofs.Number.Integer
import Typewright.Proofs.Schema.Bounds
import Typewright.Proofs.Schema.Patterns

namespace Typewright

/-! ## Warnings that nothing is left -/

/-- Whether a warning says that constraints leave no value. -/
def Warning.isConflict : Warning → Bool
  | .noLength .. => true
  | .noValue .. => true
  | _ => false

/-- The warnings of some work which say that constraints leave no value. -/
def conflicts {α : Type} (work : Noting α) : List Warning := (notes work).filter (·.isConflict)

/-- Work that gives something and finds that a value is left. -/
def Unopposed {α : Type} (work : Noting α) : Prop := (∃ a, outcome work = .ok a) ∧ conflicts work = []

/-- Work that gives something and warns that no value is left, if the warning can be told.  Where it
cannot, the work is lost. -/
structure Told {α : Type} (work : Noting α) (w : Warning) : Prop where
  told : w.hasText = true → (∃ a, outcome work = .ok a) ∧ conflicts work = [w]
  lost : w.hasText = false → outcome work = .error (.fault .value) ∧ conflicts work = []

/-- Work that gives a value, and warns of other things only. -/
def Gets {α : Type} (x : Noting α) (a : α) : Prop :=
  ∃ ns, ns.filter (·.isConflict) = [] ∧ ∀ ws, x.run.run ws = (.ok a, ws ++ ns)

namespace Gets

variable {α β : Type} {x : Noting α} {a : α}

protected theorem pure (a : α) : Gets (pure a) a :=
  ⟨[], rfl, fun ws => congrArg (Prod.mk _) (List.append_nil ws).symm⟩

theorem note {w : Warning} (h : w.isConflict = false) : Gets (note w) () :=
  ⟨[w], by simp [h], fun _ => rfl⟩

protected theorem bind {f : α → Noting β} {b : β} (hx : Gets x a) (hf : Gets (f a) b) :
    Gets (x >>= f) b := by
  obtain ⟨ns, hns, hxrun⟩ := hx
  obtain ⟨ms, hms, hfrun⟩ := hf
  refine ⟨ns ++ ms, by rw [List.filter_append, hns, hms]; rfl, fun ws => ?_⟩
  rw [noting_run_bind, hxrun]
  exact (hfrun _).trans (by rw [List.append_assoc])

theorem outcome (h : Gets x a) : outcome x = .ok a := by
  obtain ⟨ns, -, hrun⟩ := h
  exact congrArg Prod.fst (hrun [])

theorem unopposed (h : Gets x a) : Unopposed x := by
  refine ⟨⟨a, h.outcome⟩, ?_⟩
  obtain ⟨ns, hns, hrun⟩ := h
  rw [conflicts, notes, hrun]
  exact hns

/-- Work that gives a value, and a conflict that is found behind it. -/
theorem told {w : Warning} {f : α → Noting β} {b : β} (h : Gets x a) (hw : w.isConflict = true)
    (hf : f a = do Schema.tell w; return b) : Told (x >>= f) w := by
  obtain ⟨ns, hns, hrun⟩ := h
  have hrest : (x >>= f).run.run [] = (do Schema.tell w; return b : Noting β).run.run ns := by
    rw [noting_run_bind, hrun, ← hf]
    rfl
  constructor <;> unfold conflicts notes Typewright.outcome <;> rw [hrest] <;> intro htext
  · rw [Schema.tell_of_hasText htext]
    refine ⟨⟨b, rfl⟩, ?_⟩
    show (ns ++ [w]).filter (·.isConflict) = [w]
    rw [List.filter_append, hns]
    simp [hw]
  · rw [Schema.tell_of_not_hasText htext]
    exact ⟨rfl, hns⟩

end Gets

namespace Schema

/-! ## What the facets say -/

/-- An integer or a finite double precision number, and the rational that it denotes. -/
inductive Denotes : Value → Rat → Prop
  | int (n : Int) : Denotes (.int n) n
  | float {x : Number.Binary64} {q : Rat} : x.toRat? = some q → Denotes (.float x) q

/-- The bounds of a schema are rationals where they are given, and what excludes them may also be a
truth value. -/
structure RationalBounds (schema : Value) : Prop where
  bound : ∀ side, schema.get (boundFacet side) = .null ∨
    ∃ q, Denotes (schema.get (boundFacet side)) q
  exclusive : ∀ side, schema.get (exclusiveFacet side) = .null ∨
    (∃ b, schema.get (exclusiveFacet side) = .bool b) ∨
    ∃ q, Denotes (schema.get (exclusiveFacet side)) q

/-- A rational satisfies the facets that bound the values of a schema. -/
def Admits (schema : Value) (x : Rat) : Prop := ∀ side,
  (∀ q, Denotes (schema.get (boundFacet side)) q → Within side (facetEdge schema side) q x) ∧
  ∀ q, Denotes (schema.get (exclusiveFacet side)) q → Within side .exclusive q x

/-- The limits on the length are natural numbers where they are given. -/
def NaturalLengths (schema : Value) : Prop := ∀ side,
  schema.get (lengthFacet side) = .null ∨ ∃ n : Nat, schema.get (lengthFacet side) = .int n

/-- A length satisfies the facets that limit it. -/
def AdmitsLength (schema : Value) (n : Nat) : Prop :=
  (∀ low : Nat, schema.get "minLength" = .int low → low ≤ n) ∧
  ∀ high : Nat, schema.get "maxLength" = .int high → n ≤ high

end Schema

/-- A rational satisfies a constraint, if it is a bound. -/
def Constraint.Admits (x : Rat) : Constraint → Prop
  | .bound side n edge => Satisfies side (n, edge) x
  | _ => True

namespace Schema

variable {name : String} {schema v : Value} {kind : Kind} {side : Side} {q x : Rat}

/-! ## Bounds as they are written -/

theorem Denotes.number (h : Denotes v q) :
    ∃ n, v = .num n ∧ n.place = .at q ∧ v.isPlainNumber = true := by
  cases h with
  | int n => exact ⟨_, rfl, rfl, rfl⟩
  | @float y q hq =>
      refine ⟨_, rfl, ?_, rfl⟩
      cases y with
      | finite s m e => exact congrArg (fun r => (r.map Number.Place.at).getD .nowhere) hq
      | _ => exact nomatch hq

/-- The limit on the length of a schema from a side. -/
def facetLengths (schema : Value) (side : Side) : List Nat :=
  match schema.get (lengthFacet side) with
  | .num (.int n) => [n.toNat]
  | _ => []

/-- The number in a facet as a bound. -/
def boundIn (edge : Edge) : Value → List (Number × Edge)
  | .num n => [(n, edge)]
  | _ => []

/-- The bounds of a schema from a side, in the order in which they are read. -/
def facetBounds (schema : Value) (side : Side) : List (Number × Edge) :=
  boundIn (facetEdge schema side) (schema.get (boundFacet side)) ++
    boundIn .exclusive (schema.get (exclusiveFacet side))

/-- The bounds of a schema from both sides, in the order in which they are compared. -/
def facetPairs (schema : Value) : List ((Number × Edge) × (Number × Edge)) :=
  (facetBounds schema .lower).flatMap fun low =>
    (facetBounds schema .upper).map fun high => (low, high)

theorem boundIn_rational (edge : Edge) (h : (∀ n, v ≠ .num n) ∨ ∃ q, Denotes v q) :
    ∀ b ∈ boundIn edge v, b.1.IsRational := by
  intro b hb
  cases v with
  | num n =>
      rcases h with hno | ⟨q, hq⟩
      · exact absurd rfl (hno n)
      · obtain ⟨m, hm, hplace, -⟩ := hq.number
        cases hm
        exact List.mem_singleton.mp hb ▸ ⟨q, hplace⟩
  | _ => exact absurd hb List.not_mem_nil

/-- A bound is satisfied where the rational that its facet denotes bounds from the right side. -/
theorem forall_boundIn (edge : Edge) (h : (∀ n, v ≠ .num n) ∨ ∃ q, Denotes v q) :
    (∀ b ∈ boundIn edge v, Satisfies side b x) ↔ ∀ q, Denotes v q → Within side edge q x := by
  constructor
  · intro hall q hq
    obtain ⟨n, rfl, hplace, -⟩ := hq.number
    exact (satisfies_of_place hplace).mp (hall (n, edge) List.mem_cons_self)
  · intro hall b hb
    rcases h with hno | ⟨q, hq⟩
    · cases v with
      | num n => exact absurd rfl (hno n)
      | _ => exact absurd hb List.not_mem_nil
    · obtain ⟨n, rfl, hplace, -⟩ := hq.number
      cases List.mem_singleton.mp hb
      exact (satisfies_of_place hplace).mpr (hall q hq)

theorem RationalBounds.bound_or (h : RationalBounds schema) (side : Side) :
    (∀ n, schema.get (boundFacet side) ≠ .num n) ∨ ∃ q, Denotes (schema.get (boundFacet side)) q :=
  (h.bound side).imp_left fun hnull _ hn => nomatch hnull.symm.trans hn

theorem RationalBounds.exclusive_or (h : RationalBounds schema) (side : Side) :
    (∀ n, schema.get (exclusiveFacet side) ≠ .num n) ∨
      ∃ q, Denotes (schema.get (exclusiveFacet side)) q := by
  rcases h.exclusive side with hnull | ⟨b, hb⟩ | hq
  · exact .inl fun n hn => nomatch hnull.symm.trans hn
  · exact .inl fun n hn => nomatch hb.symm.trans hn
  · exact .inr hq

theorem facetBounds_rational (h : RationalBounds schema) (side : Side) :
    ∀ b ∈ facetBounds schema side, b.1.IsRational := by
  intro b hb
  rcases List.mem_append.mp hb with hb | hb
  · exact boundIn_rational _ (h.bound_or side) b hb
  · exact boundIn_rational _ (h.exclusive_or side) b hb

theorem admits_iff (h : RationalBounds schema) :
    Admits schema x ↔ ∀ side, ∀ b ∈ facetBounds schema side, Satisfies side b x := by
  refine forall_congr' fun side => ?_
  rw [facetBounds, List.forall_mem_append, forall_boundIn _ (h.bound_or side),
    forall_boundIn _ (h.exclusive_or side)]

theorem facetPairs_rational (h : RationalBounds schema) :
    ∀ p ∈ facetPairs schema, p.1.1.IsRational ∧ p.2.1.IsRational := by
  rintro ⟨low, high⟩ hp
  obtain ⟨hlow, hhigh⟩ := List.mem_product.mp hp
  exact ⟨facetBounds_rational h _ low hlow, facetBounds_rational h _ high hhigh⟩

/-- Two sides are all. -/
theorem forall_side {P : Side → Prop} : (∀ side, P side) ↔ P .lower ∧ P .upper :=
  ⟨fun h => ⟨h _, h _⟩, fun h side => by cases side; exacts [h.1, h.2]⟩

/-- A schema admits a rational unless two of its bounds exclude each other. -/
theorem exists_admits_iff (h : RationalBounds schema) :
    (∃ x, Admits schema x) ↔ ∀ p ∈ facetPairs schema, ¬ Apart p.1 p.2 := by
  simp only [admits_iff h, forall_side]
  rw [exists_all_iff (facetBounds_rational h _) (facetBounds_rational h _)]
  constructor
  · rintro hall ⟨low, high⟩ hp
    obtain ⟨hlow, hhigh⟩ := List.mem_product.mp hp
    exact hall low hlow high hhigh
  · exact fun hall low hlow high hhigh => hall (low, high) (List.mem_product.mpr ⟨hlow, hhigh⟩)

/-! ## Limits and bounds among constraints -/

/-- A constraint that limits neither a length nor a value. -/
def IsFree (c : Constraint) : Prop :=
  match c with
  | .length .. => False
  | .bound .. => False
  | _ => True

section Among

variable {cs : List Constraint} {s : Side} {bs : List (Number × Edge)} {ns : List Nat}

theorem lengths_free (h : AllOf IsFree cs) : lengths side cs = [] :=
  List.filterMap_eq_nil_iff.mpr fun c hc => by
    cases c with
    | length s n => exact (h _ hc).elim
    | _ => rfl

theorem bounds_free (h : AllOf IsFree cs) : bounds side cs = [] :=
  List.filterMap_eq_nil_iff.mpr fun c hc => by
    cases c with
    | bound s n edge => exact (h _ hc).elim
    | _ => rfl

theorem lengths_map_bound : lengths side (bs.map fun b => .bound s b.1 b.2) = [] :=
  List.filterMap_eq_nil_iff.mpr fun c hc => by
    obtain ⟨b, -, rfl⟩ := List.mem_map.mp hc
    rfl

theorem bounds_map_length : bounds side (ns.map (.length s)) = [] :=
  List.filterMap_eq_nil_iff.mpr fun c hc => by
    obtain ⟨n, -, rfl⟩ := List.mem_map.mp hc
    rfl

/-- Where each constraint is made from what is picked of it on one side, all or nothing is picked. -/
theorem filterMap_made {α : Type} {make : α → Constraint} {pick : Constraint → Option α}
    (h : ∀ a, pick (make a) = if s == side then some a else none) (as : List α) :
    (as.map make).filterMap pick = if s = side then as else [] := by
  rw [List.filterMap_map]
  by_cases hside : s = side
  · rw [if_pos hside]
    refine (List.filterMap_congr fun a _ => ?_).trans List.filterMap_some
    exact (h a).trans (if_pos (beq_iff_eq.mpr hside))
  · rw [if_neg hside]
    refine List.filterMap_eq_nil_iff.mpr fun a _ => ?_
    exact (h a).trans (if_neg fun heq => hside (beq_iff_eq.mp heq))

theorem bounds_map_bound :
    bounds side (bs.map fun b => .bound s b.1 b.2) = if s = side then bs else [] :=
  filterMap_made (fun _ => rfl) bs

theorem lengths_map_length : lengths side (ns.map (.length s)) = if s = side then ns else [] :=
  filterMap_made (fun _ => rfl) ns

/-- A rational satisfies some constraints if it satisfies the bounds among them. -/
theorem forall_admits_iff :
    (∀ c ∈ cs, c.Admits x) ↔ ∀ side, ∀ b ∈ bounds side cs, Satisfies side b x := by
  constructor
  · exact fun h side b hb => h _ (mem_bounds.mp hb)
  · intro h c hc
    cases c with
    | bound side n edge => exact h side (n, edge) (mem_bounds.mpr hc)
    | _ => trivial

end Among

/-! ## Reading the facets -/

/-- The constraints of the facets one by one, before they are compared. -/
def read (name : String) (schema : Value) (kind : Kind) : Noting (List Constraint) := do
  let pattern ← patternConstraint name schema kind
  let minLength ← lengthConstraint name schema kind .lower
  let maxLength ← lengthConstraint name schema kind .upper
  let lower ← boundConstraints name schema kind .lower
  let upper ← boundConstraints name schema kind .upper
  let allowed ← enumConstraint name schema
  return pattern ++ minLength ++ maxLength ++ lower ++ upper ++ allowed

theorem constraints_eq_read : constraints name schema kind = (do
    let cs ← read name schema kind
    checkSatisfiable name cs
    return cs) := by
  simp only [constraints, read, bind_assoc, pure_bind]

/-- A facet that is left out gives nothing. -/
theorem ignored {w : Warning} (h : w.isConflict = false) :
    Gets (do note w; return ([] : List Constraint)) [] :=
  (Gets.note h).bind (.pure [])

/-- A facet that is absent or does not apply gives nothing. -/
theorem left_out {absent applies : Bool} {w : Warning} {rest : Noting (List Constraint)}
    (h : applies = false) (hw : w.isConflict = false) :
    Gets (if absent then return [] else if !applies then do note w; return [] else rest) [] := by
  cases absent with
  | true => exact .pure []
  | false =>
      rw [h]
      exact ignored hw

theorem patternConstraint_other (h : kind.isTextual = false) :
    Gets (patternConstraint name schema kind) [] := by
  unfold patternConstraint
  exact left_out h rfl

theorem patternConstraint_textual (name : String) (htextual : kind.isTextual = true)
    (h : ∀ e, ¬ PatternStops (schema.get "pattern") e) :
    ∃ cs, AllOf IsFree cs ∧ Gets (patternConstraint name schema kind) cs := by
  cases hnull : (schema.get "pattern").isNull with
  | true =>
      refine ⟨[], .nil, ?_⟩
      rw [patternConstraint, if_pos hnull]
      exact .pure []
  | false =>
      rcases patternConstraint_of_not_stops htextual rfl hnull h with
        ⟨s, body, -, -, hkept⟩ | ⟨-, reason, hdropped⟩
      · exact ⟨[.pattern s], .one trivial, hkept ▸ .pure _⟩
      · exact ⟨[], .nil, hdropped ▸ ignored rfl⟩

theorem lengthConstraint_textual (htextual : kind.isTextual = true) (h : NaturalLengths schema) :
    lengthConstraint name schema kind side =
      pure ((facetLengths schema side).map (.length side)) := by
  unfold lengthConstraint facetLengths
  rcases h side with hnull | ⟨n, hn⟩
  · rw [hnull]; rfl
  · have hofLength : Constraint.ofLength side (.int n) = .ok (.length side n) := by
      rw [Constraint.ofLength, if_neg (by omega), Int.toNat_natCast]
    simp [hn, htextual, Value.isNull, hofLength, unlessFlawed]

theorem lengthConstraint_other (h : kind.isTextual = false) :
    Gets (lengthConstraint name schema kind side) [] := by
  unfold lengthConstraint
  exact left_out h rfl

/-- A facet with a number that denotes a rational gives its bound, and any other one gives none. -/
theorem oneBound_eq (edge : Edge) (h : (∀ n, v ≠ .num n) ∨ ∃ q, Denotes v q) :
    oneBound side edge v.isPlainNumber v =
      pure ((boundIn edge v).map fun b => .bound side b.1 b.2) := by
  rcases h with hno | ⟨q, hq⟩
  · cases v with
    | num n => exact absurd rfl (hno n)
    | _ => rfl
  · obtain ⟨n, hn, -, hplain⟩ := hq.number
    rw [hplain, hn]
    rfl

theorem boundConstraints_numeric (hnumeric : kind.isNumeric = true) (h : RationalBounds schema) :
    boundConstraints name schema kind side =
      pure ((facetBounds schema side).map fun b => .bound side b.1 b.2) := by
  have hgiven : (!(schema.get (boundFacet side)).isNull) =
      (schema.get (boundFacet side)).isPlainNumber := by
    rcases h.bound side with hnull | ⟨q, hq⟩
    · rw [hnull]
      rfl
    · obtain ⟨n, hn, -, hplain⟩ := hq.number
      rw [hplain, hn]
      rfl
  rw [boundConstraints_of_numeric hnumeric]
  dsimp only
  rw [hgiven, oneBound_eq _ (h.bound_or side),
    oneBound_eq _ (h.exclusive_or side), pure_bind, pure_bind, ← List.map_append, facetBounds]

theorem boundConstraints_other (h : kind.isNumeric = false) :
    Gets (boundConstraints name schema kind side) [] := by
  unfold boundConstraints
  exact left_out h rfl

theorem enumConstraint_gets (name : String) (schema : Value) :
    ∃ cs, AllOf IsFree cs ∧ Gets (enumConstraint name schema) cs := by
  unfold enumConstraint
  split
  · exact ⟨[], .nil, .pure []⟩
  · split
    · exact ⟨[], .nil, .pure []⟩
    · refine ⟨_, ?_, .pure _⟩
      exact .one trivial
  · exact ⟨[], .nil, ignored rfl⟩

/-- The bounds of a numeric schema are read as they are written, and no limits on the length. -/
theorem read_numeric (name : String) (hnumeric : kind.isNumeric = true) (h : RationalBounds schema) :
    ∃ cs, Gets (read name schema kind) cs ∧ (∀ side, lengths side cs = []) ∧
      ∀ side, bounds side cs = facetBounds schema side := by
  have htextual : kind.isTextual = false := Kind.not_textual_of_numeric hnumeric
  obtain ⟨allowed, hfree, hallowed⟩ := enumConstraint_gets name schema
  refine ⟨(facetBounds schema .lower).map (fun b => .bound .lower b.1 b.2) ++
    (facetBounds schema .upper).map (fun b => .bound .upper b.1 b.2) ++ allowed, ?_, ?_, ?_⟩
  · unfold read
    refine (patternConstraint_other htextual).bind ?_
    refine (lengthConstraint_other htextual).bind ((lengthConstraint_other htextual).bind ?_)
    rw [boundConstraints_numeric hnumeric h, boundConstraints_numeric hnumeric h, pure_bind,
      pure_bind]
    exact hallowed.bind (.pure _)
  · simp [lengths_append, lengths_map_bound, lengths_free hfree]
  · intro side
    cases side <;> simp [bounds_append, bounds_map_bound, bounds_free hfree]

/-- The limits on the length of a textual schema are read as they are written, and no bounds. -/
theorem read_textual (name : String) (htextual : kind.isTextual = true) (h : NaturalLengths schema)
    (hpattern : ∀ e, ¬ PatternStops (schema.get "pattern") e) :
    ∃ cs, Gets (read name schema kind) cs ∧ (∀ side, bounds side cs = []) ∧
      ∀ side, lengths side cs = facetLengths schema side := by
  have hnumeric : kind.isNumeric = false := Kind.not_numeric_of_textual htextual
  obtain ⟨pattern, hfree, hpattern⟩ := patternConstraint_textual name htextual hpattern
  obtain ⟨allowed, hfree', hallowed⟩ := enumConstraint_gets name schema
  refine ⟨pattern ++ (facetLengths schema .lower).map (.length .lower) ++
    (facetLengths schema .upper).map (.length .upper) ++ allowed, ?_, ?_, ?_⟩
  · unfold read
    refine hpattern.bind ?_
    rw [lengthConstraint_textual htextual h, lengthConstraint_textual htextual h, pure_bind, pure_bind]
    refine (boundConstraints_other hnumeric).bind ((boundConstraints_other hnumeric).bind ?_)
    refine hallowed.bind ?_
    rw [List.append_nil, List.append_nil]
    exact .pure _
  · simp [bounds_append, bounds_map_length, bounds_free hfree, bounds_free hfree']
  · intro side
    cases side <;>
      simp [lengths_append, lengths_map_length, lengths_free hfree, lengths_free hfree']

/-! ## Comparing the constraints -/

section Compare

variable {cs cs' : List Constraint}

/-- The bounds among constraints from both sides, in the order in which they are compared. -/
def boundPairs (cs : List Constraint) : List ((Number × Edge) × (Number × Edge)) :=
  (bounds .lower cs).flatMap fun low => (bounds .upper cs).map fun high => (low, high)

theorem checkSatisfiable_pure (hlengths : emptyLengths? cs = none)
    (hbounds : emptyBounds? (boundPairs cs) = .ok none) : checkSatisfiable name cs = pure () := by
  rw [boundPairs] at hbounds
  simp only [checkSatisfiable, hlengths, hbounds]

theorem checkSatisfiable_noValue {low high : Number} (hlengths : emptyLengths? cs = none)
    (hbounds : emptyBounds? (boundPairs cs) = .ok (some (low, high))) :
    checkSatisfiable name cs = tell (.noValue name low high) := by
  rw [boundPairs] at hbounds
  simp only [checkSatisfiable, hlengths, hbounds]

theorem checkSatisfiable_noLength {low high : Nat} (hlengths : emptyLengths? cs = some (low, high))
    (hbounds : emptyBounds? (boundPairs cs) = .ok none) :
    checkSatisfiable name cs = tell (.noLength name low high) := by
  rw [boundPairs] at hbounds
  simp only [checkSatisfiable, hlengths, hbounds, bind_pure_unit]

/-- The comparison changes nothing of what was read. -/
theorem eq_of_read (hread : Gets (read name schema kind) cs)
    (h : outcome (constraints name schema kind) = .ok cs') : cs' = cs := by
  obtain ⟨ns, -, hrun⟩ := hread
  rw [constraints_eq_read, outcome, noting_run_bind, hrun] at h
  dsimp only at h
  rw [noting_run_bind] at h
  rcases hcheck : (checkSatisfiable name cs).run.run ([] ++ ns) with ⟨e | _, ws⟩ <;> rw [hcheck] at h
  · cases h
  · exact (Except.ok.inj h).symm

theorem unopposed_of_check (hread : Gets (read name schema kind) cs)
    (hcheck : checkSatisfiable name cs = pure ()) : Unopposed (constraints name schema kind) := by
  have hgets : Gets (constraints name schema kind) cs := by
    rw [constraints_eq_read]
    refine hread.bind ?_
    rw [hcheck]
    exact .pure cs
  exact hgets.unopposed

theorem told_of_check {w : Warning} (hw : w.isConflict = true)
    (hread : Gets (read name schema kind) cs) (hcheck : checkSatisfiable name cs = tell w) :
    Told (constraints name schema kind) w := by
  rw [constraints_eq_read]
  refine hread.told hw (b := cs) ?_
  rw [hcheck]

end Compare

/-! ### Bounds -/

theorem numeric_faithful (hnumeric : kind.isNumeric = true) (h : RationalBounds schema)
    {cs : List Constraint} (hcs : outcome (constraints name schema kind) = .ok cs) :
    (∀ c ∈ cs, c.Admits x) ↔ Admits schema x := by
  obtain ⟨read, hread, -, hbounds⟩ := read_numeric name hnumeric h
  rw [eq_of_read hread hcs, forall_admits_iff, admits_iff h]
  simp only [hbounds]

theorem numeric_told (hnumeric : kind.isNumeric = true) (h : RationalBounds schema) :
    ((∃ x, Admits schema x) → Unopposed (constraints name schema kind)) ∧
    ((¬ ∃ x, Admits schema x) → ∃ low high, FirstApart (facetPairs schema) low high ∧
      Told (constraints name schema kind) (.noValue name low.1 high.1)) := by
  obtain ⟨cs, hread, hlengths, hbounds⟩ := read_numeric name hnumeric h
  have hnone : emptyLengths? cs = none := by simp [emptyLengths?, hlengths]
  -- what is compared are the bounds of the facets
  have hpairs : boundPairs cs = facetPairs schema := by
    rw [boundPairs, hbounds, hbounds, facetPairs]
  rw [exists_admits_iff h]
  rcases emptyBounds_spec (facetPairs_rational h) with ⟨hquiet, hall⟩ | ⟨low, high, hsome, hfirst⟩
  · have hcheck := @checkSatisfiable_pure name cs hnone (hpairs ▸ hquiet)
    exact ⟨fun _ => unopposed_of_check hread hcheck, fun hno => absurd hall hno⟩
  · have hcheck := @checkSatisfiable_noValue name cs _ _ hnone (hpairs ▸ hsome)
    obtain ⟨hmem, hapart⟩ := hfirst.mem
    exact ⟨fun hall => absurd hapart (hall (low, high) hmem), fun _ =>
      ⟨low, high, hfirst, told_of_check rfl hread hcheck⟩⟩

/-! ### Lengths -/

/-- The limits on the length are compared as they are written. -/
theorem emptyLengths_spec {cs : List Constraint} (h : NaturalLengths schema)
    (hcs : ∀ side, lengths side cs = facetLengths schema side) :
    (emptyLengths? cs = none ∧ ∃ n, AdmitsLength schema n) ∨
      ∃ low high : Nat, emptyLengths? cs = some (low, high) ∧ schema.get "minLength" = .int low ∧
        schema.get "maxLength" = .int high ∧ ¬ ∃ n, AdmitsLength schema n := by
  unfold emptyLengths?
  simp only [hcs, facetLengths, lengthFacet]
  -- only where both limits are given can they exclude each other
  rcases h .lower with hlower | ⟨low, hlower⟩ <;> rcases h .upper with hupper | ⟨high, hupper⟩ <;>
    simp only [lengthFacet] at hlower hupper
  · left
    simp [hlower, hupper, AdmitsLength]
  · left
    refine ⟨by simp [hlower], 0, ?_, fun _ _ => Nat.zero_le _⟩
    simp [hlower]
  · left
    refine ⟨by simp [hlower, hupper], low, ?_, by simp [hupper]⟩
    simp [hlower]
  · by_cases hlt : high < low
    · right
      refine ⟨low, high, by simp [hlower, hupper, hlt], hlower, hupper, ?_⟩
      rintro ⟨n, hlow, hhigh⟩
      have hle := hlow low hlower
      have hge := hhigh high hupper
      omega
    · left
      refine ⟨by simp [hlower, hupper, hlt], low, ?_, ?_⟩
      · simp [hlower]
      · simpa [hupper] using hlt

theorem textual_told (htextual : kind.isTextual = true) (h : NaturalLengths schema)
    (hpattern : ∀ e, ¬ PatternStops (schema.get "pattern") e) :
    ((∃ n, AdmitsLength schema n) → Unopposed (constraints name schema kind)) ∧
    ((¬ ∃ n, AdmitsLength schema n) → ∃ low high : Nat, schema.get "minLength" = .int low ∧
      schema.get "maxLength" = .int high ∧
        Told (constraints name schema kind) (.noLength name low high)) := by
  obtain ⟨cs, hread, hbounds, hlengths⟩ := read_textual name htextual h hpattern
  have hquiet : emptyBounds? (boundPairs cs) = .ok none := by
    rw [boundPairs, hbounds, hbounds]
    rfl
  rcases emptyLengths_spec h hlengths with ⟨hnone, hleft⟩ | ⟨low, high, hsome, hlow, hhigh, hno⟩
  · have hcheck := @checkSatisfiable_pure name cs hnone hquiet
    exact ⟨fun _ => unopposed_of_check hread hcheck, fun hno => absurd hleft hno⟩
  · have hcheck := @checkSatisfiable_noLength name cs _ _ hsome hquiet
    exact ⟨fun hleft => absurd hleft hno, fun _ =>
      ⟨low, high, hlow, hhigh, told_of_check rfl hread hcheck⟩⟩

/-! ## Both -/

/-- A rational satisfies the bounds that come out of a numeric schema exactly if it satisfies the
facets.  That nothing is left is told exactly where it is so, and only telling it can fail: then the
first two bounds that exclude each other, or the two limits on the length, have no text.  Limits on
the length are read after the pattern, which may stop the work. -/
theorem conflict_told (name : String) (schema : Value) (kind : Kind) :
    let work := constraints name schema kind
    (kind.isNumeric = true → RationalBounds schema →
      (∀ cs, outcome work = .ok cs → ∀ x, (∀ c ∈ cs, c.Admits x) ↔ Admits schema x) ∧
      ((∃ x, Admits schema x) → Unopposed work) ∧
      ((¬ ∃ x, Admits schema x) → ∃ low high, FirstApart (facetPairs schema) low high ∧
        Told work (.noValue name low.1 high.1))) ∧
    (kind.isTextual = true → NaturalLengths schema →
      (∀ e, PatternStops (schema.get "pattern") e → work = throw e) ∧
      ((∀ e, ¬ PatternStops (schema.get "pattern") e) →
        ((∃ n, AdmitsLength schema n) → Unopposed work) ∧
        ((¬ ∃ n, AdmitsLength schema n) → ∃ low high : Nat, schema.get "minLength" = .int low ∧
          schema.get "maxLength" = .int high ∧ Told work (.noLength name low high)))) := by
  intro work
  refine ⟨fun hnumeric h => ⟨fun cs hcs x => numeric_faithful hnumeric h hcs,
    numeric_told hnumeric h⟩, fun htextual h => ⟨fun e he => ?_, textual_told htextual h⟩⟩
  show constraints name schema kind = _
  rw [constraints_eq, patternConstraint_of_stops htextual rfl he]
  rfl

/-- A numeric schema with a minimum whose numeral is too long, above the maximum. -/
def wideGap : Value :=
  .record [("type", .text "integer"), ("minimum", .int (Number.tenTo Number.maxDigits)),
    ("maximum", .int 0)]

/-- A textual schema with limits on the length that exclude each other. -/
def narrowCode : Value :=
  .record [("type", .text "string"), ("minLength", .int 3), ("maxLength", .int 2)]

theorem wideGap_lost :
    outcome (constraints "Big" wideGap .int32) = .error (.fault .value) ∧
      conflicts (constraints "Code" narrowCode .string) = [.noLength "Code" 3 2] := by
  constructor
  · have hmin : Denotes (wideGap.get (boundFacet .lower)) (Number.tenTo Number.maxDigits : Int) :=
      .int _
    have hmax : Denotes (wideGap.get (boundFacet .upper)) (0 : Int) := .int 0
    have hrational : RationalBounds wideGap :=
      ⟨forall_side.mpr ⟨.inr ⟨_, hmin⟩, .inr ⟨_, hmax⟩⟩, forall_side.mpr ⟨.inl rfl, .inl rfl⟩⟩
    have hno : ¬ ∃ x, Admits wideGap x := by
      rintro ⟨x, hx⟩
      have hlow : ((Number.tenTo Number.maxDigits : Int) : Rat) ≤ x := (hx .lower).1 _ hmin
      have hhigh : x ≤ ((0 : Int) : Rat) := (hx .upper).1 _ hmax
      have hle := Rat.intCast_le_intCast.mp (hlow.trans hhigh)
      have hpos := Number.tenTo_pos Number.maxDigits
      omega
    obtain ⟨low, high, hfirst, htold⟩ :=
      ((conflict_told "Big" wideGap .int32).1 rfl hrational).2.2 hno
    have hpair : facetPairs wideGap =
        [((.int (Number.tenTo Number.maxDigits), .inclusive), (.int 0, .inclusive))] := rfl
    have hmem := hfirst.mem.1
    rw [hpair] at hmem
    cases List.mem_singleton.mp hmem
    refine (htold.lost ?_).1
    rw [Warning.hasText, Number.hasText_tenTo, Bool.false_and]
  · have hnatural : NaturalLengths narrowCode := forall_side.mpr ⟨.inr ⟨3, rfl⟩, .inr ⟨2, rfl⟩⟩
    have hno : ¬ ∃ n, AdmitsLength narrowCode n := by
      rintro ⟨n, hlow, hhigh⟩
      have hthree := hlow 3 rfl
      have htwo := hhigh 2 rfl
      omega
    have hpattern : ∀ e, ¬ PatternStops (narrowCode.get "pattern") e :=
      fun e he => absurd he.given (by decide)
    obtain ⟨low, high, hlow, hhigh, htold⟩ :=
      (((conflict_told "Code" narrowCode .string).2 rfl hnatural).2 hpattern).2 hno
    have hthree : (3 : Int) = low := Number.int.inj (Value.num.inj hlow)
    have htwo : (2 : Int) = high := Number.int.inj (Value.num.inj hhigh)
    obtain rfl : low = 3 := by omega
    obtain rfl : high = 2 := by omega
    exact (htold.told (by decide +kernel)).2

end Schema

end Typewright
