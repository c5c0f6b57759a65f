/-
# Where emitting stops at a value

For each value and each constraint it is told apart whether a language writes it for a kind
(`Translates`), and if not, whether emitting stops at it (`Stops`) or reports a problem.  These are
conditions on the metadata alone, and each function that emits code meets them (`primitive_ends`).
Models and boundary types never stop anything (`model_ok`, `dto_ok`), and the check of the paths only
ends in problems; so what stops the files of metadata is the first data type that is not emitted
(`rendered_ends`).
-/
import Typewright.Proofs.Emission.Artifacts
import Typewright.Proofs.Emission.Ends
import Typewright.Proofs.Number.Integer

namespace Typewright.Emission

/-! ## Numbers and values -/

/-- For an integer kind, C# writes a number as an integer. -/
def WritesIntegers (l : Language) (k : Kind) : Prop := l = .csharp ∧ k.isInteger = true

/-- The numbers that a language writes for a kind. -/
inductive Writes (l : Language) (k : Kind) : Number → Prop
  | number {n : Number} : ¬ WritesIntegers l k → n.hasText → Writes l k n
  | integer {n : Number} {i : Int} : WritesIntegers l k → n.place = .at i →
      (Number.int i).hasText → Writes l k n

/-- The numbers that stop a language, and the faults at which they do: numerals that are too long,
and infinities and what is no number where an integer is to be written. -/
inductive NumberStops (l : Language) (k : Kind) : Number → Fault → Prop
  | long {n : Number} : ¬ WritesIntegers l k → ¬ n.hasText → NumberStops l k n .value
  | longInteger {n : Number} {i : Int} : WritesIntegers l k → n.place = .at i →
      ¬ (Number.int i).hasText → NumberStops l k n .value
  | infinite {n : Number} : WritesIntegers l k → n.place = .below ∨ n.place = .above →
      NumberStops l k n .overflow
  | undefined {n : Number} : WritesIntegers l k → n.place = .nowhere → NumberStops l k n .value

theorem numeral_ends (n : Number) :
    Ends (numeral n) (n.hasText = true) fun f => ¬ n.hasText = true ∧ f = .value := by
  rw [numeral]
  cases n.hasText with
  | false => exact (Ends.of_fault .value).congr (by simp) fun f => by simp
  | true => exact (Ends.of_ok n.text).congr (by simp) fun f => by simp

namespace CSharp

variable {n : Number}

theorem integerPart_at {x : Rat} (h : n.place = .at x) :
    ∃ j, integerPart n = .ok j ∧ ∀ i : Int, x = i → j = i := by
  cases n with
  | int m =>
      cases h
      exact ⟨m, rfl, fun i hi => Rat.intCast_inj.mp hi⟩
  | float y =>
      cases y with
      | nan => cases h
      | inf s => cases s <;> cases h
      | finite s m e =>
          refine ⟨_, rfl, fun i hi => ?_⟩
          have hx := Number.Binary64.truncate?_of_integer (hi ▸ Number.place_finite.mp h)
          exact Option.some.inj hx
  | decimal d =>
      cases d with
      | nan s g p => cases h
      | inf s => cases s <;> cases h
      | finite s c e =>
          refine ⟨_, rfl, fun i hi => ?_⟩
          have hx := Number.Decimal.truncate?_of_integer (hi ▸ Number.place_decimal.mp h)
          exact Option.some.inj hx

theorem integerPart_infinite (h : n.place = .below ∨ n.place = .above) :
    integerPart n = .error .overflow := by
  cases n with
  | int m => simp [Number.place] at h
  | float y =>
      cases y with
      | nan => simp [Number.place] at h
      | inf s => rfl
      | finite s m e => simp [Number.place, Number.Binary64.toRat?] at h
  | decimal d =>
      cases d with
      | nan s g p => simp [Number.place] at h
      | inf s => rfl
      | finite s c e => simp [Number.place, Number.Decimal.toRat?] at h

theorem integerPart_undefined (h : n.place = .nowhere) : integerPart n = .error .value := by
  cases n with
  | int m => cases h
  | float y =>
      cases y with
      | nan => rfl
      | inf s => cases s <;> cases h
      | finite s m e => simp [Number.place, Number.Binary64.toRat?] at h
  | decimal d =>
      cases d with
      | nan s g p => rfl
      | inf s => cases s <;> cases h
      | finite s c e => simp [Number.place, Number.Decimal.toRat?] at h

/-- A number that is written as an integer is one. -/
theorem integerLiteral_ends (t : DataType) (hk : t.kind.isInteger = true) :
    Ends (numberLiteral n t) (∃ i : Int, n.place = .at i ∧ (Number.int i).hasText) fun f =>
      (∃ i : Int, n.place = .at i ∧ ¬ (Number.int i).hasText ∧ f = .value) ∨
      ((n.place = .below ∨ n.place = .above) ∧ f = .overflow) ∨
      (n.place = .nowhere ∧ f = .value) := by
  rw [numberLiteral, if_pos hk]
  cases hplace : n.place with
  | below =>
      rw [integerPart_infinite (.inl hplace)]
      exact (Ends.of_fault .overflow).congr (by simp) fun f => by simp
  | above =>
      rw [integerPart_infinite (.inr hplace)]
      exact (Ends.of_fault .overflow).congr (by simp) fun f => by simp
  | nowhere =>
      rw [integerPart_undefined hplace]
      exact (Ends.of_fault .value).congr (by simp) fun f => by simp
  | «at» x =>
      obtain ⟨j, hj, hinteger⟩ := integerPart_at hplace
      simp only [hj]
      by_cases hx : x = (j : Rat)
      · subst hx
        rw [if_pos (Number.same_int.mpr hplace)]
        exact (numeral_ends (.int j)).map.congr (by simp) fun f => by simp
      · have hnot : ∀ i : Int, x ≠ (i : Rat) := fun i hi => hx (hinteger i hi ▸ hi)
        have hother : ¬ n.same (.int j) = true := by
          rw [Number.same_int, hplace]
          simpa using hx
        rw [if_neg hother]
        exact (Ends.of_problem _).congr (by simp [hnot]) fun f => by simp [hnot]

theorem numberLiteral_ends (n : Number) (t : DataType) :
    Ends (numberLiteral n t) (Writes .csharp t.kind n) (NumberStops .csharp t.kind n) := by
  cases hk : t.kind.isInteger with
  | false =>
      have hother : ¬ WritesIntegers .csharp t.kind := by simp [WritesIntegers, hk]
      rw [numberLiteral, if_neg (by simp [hk])]
      refine (numeral_ends n).map.congr ⟨.number hother, ?_⟩ fun f => ⟨?_, ?_⟩
      · rintro (⟨-, h⟩ | ⟨hw, -⟩)
        · exact h
        · exact absurd hw hother
      · rintro ⟨h, rfl⟩
        exact .long hother h
      · rintro (⟨-, h⟩ | ⟨hw, -⟩ | ⟨hw, -⟩ | ⟨hw, -⟩)
        · exact ⟨h, rfl⟩
        · exact absurd hw hother
        · exact absurd hw hother
        · exact absurd hw hother
  | true =>
      have hw : WritesIntegers .csharp t.kind := ⟨rfl, hk⟩
      refine (integerLiteral_ends t hk).congr ⟨?_, ?_⟩ fun f => ⟨?_, ?_⟩
      · rintro ⟨i, hi, htext⟩
        exact .integer hw hi htext
      · rintro (⟨hother, -⟩ | ⟨-, hi, htext⟩)
        · exact absurd hw hother
        · exact ⟨_, hi, htext⟩
      · rintro (⟨i, hi, htext, rfl⟩ | ⟨h, rfl⟩ | ⟨h, rfl⟩)
        · exact .longInteger hw hi htext
        · exact .infinite hw h
        · exact .undefined hw h
      · rintro (⟨hother, -⟩ | ⟨-, hi, htext⟩ | ⟨-, h⟩ | ⟨-, h⟩)
        · exact absurd hw hother
        · exact .inl ⟨_, hi, htext, rfl⟩
        · exact .inr (.inl ⟨h, rfl⟩)
        · exact .inr (.inr ⟨h, rfl⟩)

end CSharp

/-- The values that a language writes for a kind among the allowed ones. -/
inductive Expresses (l : Language) (k : Kind) : Value → Prop
  | number {n : Number} : Writes l k n → Expresses l k (.num n)
  | truth (b : Bool) : Expresses l k (.bool b)
  | text (s : String) : Expresses l k (.text s)
  | shown {v : Value} : l = .python → (∀ n, v ≠ .num n) → v.hasText → Expresses l k v

/-- The values that stop a language among the allowed ones, and the faults at which they do. -/
inductive ValueStops (l : Language) (k : Kind) : Value → Fault → Prop
  | number {n : Number} {f : Fault} : NumberStops l k n f → ValueStops l k (.num n) f
  | other {v : Value} : (∀ n, v ≠ .num n) → ¬ v.hasText → ValueStops l k v .value

section Values

variable {k : Kind} {v : Value} {f : Fault}

theorem expresses_num {l : Language} {n : Number} : Expresses l k (.num n) ↔ Writes l k n := by
  constructor
  · rintro (h | - | - | ⟨-, h, -⟩)
    · exact h
    · exact absurd rfl (h n)
  · exact .number

theorem valueStops_num {l : Language} {n : Number} :
    ValueStops l k (.num n) f ↔ NumberStops l k n f := by
  constructor
  · rintro (h | ⟨h, -⟩)
    · exact h
    · exact absurd rfl (h n)
  · exact .number

theorem valueStops_other {l : Language} (hv : ∀ n, v ≠ .num n) :
    ValueStops l k v f ↔ ¬ v.hasText = true ∧ f = .value := by
  constructor
  · rintro (- | ⟨-, h⟩)
    · exact absurd rfl (hv _)
    · exact ⟨h, rfl⟩
  · rintro ⟨h, rfl⟩
    exact .other hv h

/-- A value that C# has no literal for is a problem where it has a text that can be shown. -/
theorem CSharp.inexpressible_ends (t : DataType) (hv : ∀ n, v ≠ .num n) (hbool : ∀ b, v ≠ .bool b)
    (htext : ∀ s, v ≠ .text s) :
    Ends (CSharp.valueLiteral v t) (Expresses .csharp t.kind v) (ValueStops .csharp t.kind v) := by
  have hliteral : CSharp.valueLiteral v t =
      if v.hasText then CSharp.fail (.inexpressible v) t.name else .error (.fault .value) := by
    cases v with
    | bool b => exact absurd rfl (hbool b)
    | text s => exact absurd rfl (htext s)
    | num n => exact absurd rfl (hv n)
    | _ => rfl
  rw [hliteral]
  have hnot : ¬ Expresses .csharp t.kind v := by
    rintro (- | b | s | ⟨hl, -, -⟩)
    · exact hv _ rfl
    · exact hbool b rfl
    · exact htext s rfl
    · cases hl
  cases h : v.hasText with
  | false =>
      exact (Ends.of_fault .value).congr (iff_of_false id hnot) fun f => by
        simp [valueStops_other hv, h]
  | true =>
      exact (Ends.of_problem _).congr (iff_of_false id hnot) fun f => by
        simp [valueStops_other hv, h]

theorem CSharp.valueLiteral_ends (v : Value) (t : DataType) :
    Ends (CSharp.valueLiteral v t) (Expresses .csharp t.kind v) (ValueStops .csharp t.kind v) := by
  cases v with
  | bool b =>
      exact (Ends.of_ok _).congr (iff_of_true trivial (.truth b)) fun f => by
        simp [valueStops_other, Value.hasText]
  | text s =>
      exact (Ends.of_ok _).congr (iff_of_true trivial (.text s)) fun f => by
        simp [valueStops_other, Value.hasText]
  | num n =>
      exact (CSharp.numberLiteral_ends n t).congr expresses_num.symm fun f => valueStops_num.symm
  | _ => exact CSharp.inexpressible_ends t (by simp) (by simp) (by simp)

theorem not_writesIntegers_python : ¬ WritesIntegers .python k := by simp [WritesIntegers]

/-- Python writes every value that has a text. -/
theorem Python.writes_iff {n : Number} : Writes .python k n ↔ n.hasText = true := by
  constructor
  · rintro (⟨-, h⟩ | ⟨h, -⟩)
    · exact h
    · exact absurd h not_writesIntegers_python
  · exact .number not_writesIntegers_python

theorem Python.numberStops_iff {n : Number} :
    NumberStops .python k n f ↔ ¬ n.hasText = true ∧ f = .value := by
  constructor
  · rintro (⟨-, h⟩ | ⟨h, -⟩ | ⟨h, -⟩ | ⟨h, -⟩)
    · exact ⟨h, rfl⟩
    · exact absurd h not_writesIntegers_python
    · exact absurd h not_writesIntegers_python
    · exact absurd h not_writesIntegers_python
  · rintro ⟨h, rfl⟩
    exact .long not_writesIntegers_python h

theorem Python.expresses_iff : Expresses .python k v ↔ v.hasText = true := by
  constructor
  · rintro (h | b | s | ⟨-, -, h⟩)
    · exact Python.writes_iff.mp h
    · rfl
    · rfl
    · exact h
  · intro h
    cases v with
    | num n => exact .number (Python.writes_iff.mpr h)
    | _ => exact .shown rfl (by simp) h

theorem Python.valueStops_iff :
    ValueStops .python k v f ↔ ¬ v.hasText = true ∧ f = .value := by
  cases v with
  | num n => exact valueStops_num.trans Python.numberStops_iff
  | _ => exact valueStops_other (by simp)

theorem haveTexts_iff {vs : List Value} :
    Value.haveTexts vs = true ↔ ∀ v ∈ vs, v.hasText = true := by
  induction vs with
  | nil => simp [Value.haveTexts]
  | cons v vs ih => simp [Value.haveTexts, ih]

end Values

/-! ## Constraints -/

/-- The constraints that a language translates for a kind of scalar. -/
inductive Translates (l : Language) (k : Kind) : Constraint → Prop
  | pattern {regex : String} : k.isTextual → Translates l k (.pattern regex)
  | length {side : Side} {n : Nat} : k.isTextual → (Number.int n).hasText →
      Translates l k (.length side n)
  | bound {side : Side} {n : Number} {edge : Edge} : k.isNumeric → Writes l k n →
      Translates l k (.bound side n edge)
  | allowed {vs : List Value} : (∀ v ∈ vs, Expresses l k v) → Translates l k (.allowed vs)
  | required : Translates l k .required

/-- The constraints that stop a language, and the faults at which they do. -/
inductive Stops (l : Language) (k : Kind) : Constraint → Fault → Prop
  | length {side : Side} {n : Nat} : k.isTextual → ¬ (Number.int n).hasText →
      Stops l k (.length side n) .value
  | bound {side : Side} {n : Number} {edge : Edge} {f : Fault} : k.isNumeric →
      NumberStops l k n f → Stops l k (.bound side n edge) f
  | allowed {vs : List Value} {f : Fault} : Reaches (Expresses l k) (ValueStops l k · f) vs →
      Stops l k (.allowed vs) f

section Constraints

variable {l : Language} {k : Kind} {f : Fault}

theorem translates_pattern {regex : String} :
    Translates l k (.pattern regex) ↔ k.isTextual = true :=
  ⟨fun h => by cases h with | pattern h => exact h, .pattern⟩

theorem not_stops_pattern {regex : String} : ¬ Stops l k (.pattern regex) f := nofun

theorem not_stops_required : ¬ Stops l k .required f := nofun

theorem translates_length {side : Side} {n : Nat} :
    Translates l k (.length side n) ↔ k.isTextual = true ∧ (Number.int n).hasText = true :=
  ⟨fun h => by cases h with | length hk h => exact ⟨hk, h⟩, fun h => .length h.1 h.2⟩

theorem stops_length {side : Side} {n : Nat} :
    Stops l k (.length side n) f ↔
      k.isTextual = true ∧ ¬ (Number.int n).hasText = true ∧ f = .value :=
  ⟨fun h => by cases h with | length hk h => exact ⟨hk, h, rfl⟩,
    fun ⟨hk, h, hf⟩ => hf ▸ .length hk h⟩

theorem translates_bound {side : Side} {n : Number} {edge : Edge} :
    Translates l k (.bound side n edge) ↔ k.isNumeric = true ∧ Writes l k n :=
  ⟨fun h => by cases h with | bound hk h => exact ⟨hk, h⟩, fun h => .bound h.1 h.2⟩

theorem stops_bound {side : Side} {n : Number} {edge : Edge} :
    Stops l k (.bound side n edge) f ↔ k.isNumeric = true ∧ NumberStops l k n f :=
  ⟨fun h => by cases h with | bound hk h => exact ⟨hk, h⟩, fun h => .bound h.1 h.2⟩

theorem translates_allowed {vs : List Value} :
    Translates l k (.allowed vs) ↔ ∀ v ∈ vs, Expresses l k v :=
  ⟨fun h => by cases h with | allowed h => exact h, .allowed⟩

theorem stops_allowed {vs : List Value} :
    Stops l k (.allowed vs) f ↔ Reaches (Expresses l k) (ValueStops l k · f) vs :=
  ⟨fun h => by cases h with | allowed h => exact h, .allowed⟩

variable {t : DataType}

theorem CSharp.typeOf_scalar (h : t.kind ≠ .object) : ∃ s, CSharp.typeOf t = .ok s := by
  rw [CSharp.typeOf]
  cases hk : t.kind with
  | object => exact absurd hk h
  | _ => exact ⟨_, rfl⟩

theorem Python.typeOf_scalar (h : t.kind ≠ .object) : ∃ s, Python.typeOf t = .ok s := by
  rw [Python.typeOf]
  cases hk : t.kind with
  | object => exact absurd hk h
  | _ => exact ⟨_, rfl⟩

theorem CSharp.check_ends (h : t.kind ≠ .object) (name : String) (c : Constraint) :
    Ends (CSharp.check t name c) (Translates .csharp t.kind c) (Stops .csharp t.kind c) := by
  obtain ⟨type, htype⟩ := CSharp.typeOf_scalar h
  rw [CSharp.check, htype]
  cases c with
  | pattern regex =>
      exact ((Ends.of_ok _).guarded t.kind.isTextual).congr (by simp [translates_pattern])
        fun f => by simp [not_stops_pattern]
  | length side n =>
      exact (((numeral_ends (.int n)).andThen fun limit => ⟨_, rfl⟩).guarded
        t.kind.isTextual).congr translates_length.symm fun f => stops_length.symm
  | bound side n edge =>
      exact (((CSharp.numberLiteral_ends n t).andThen fun bound => ⟨_, rfl⟩).guarded
        t.kind.isNumeric).congr translates_bound.symm fun f => stops_bound.symm
  | allowed vs =>
      exact ((Ends.mapM (fun v => CSharp.valueLiteral_ends v t) vs).andThen
        fun members => ⟨_, rfl⟩).congr translates_allowed.symm fun f => stops_allowed.symm
  | required =>
      exact (Ends.of_ok _).congr (iff_of_true trivial .required) fun f => by
        simp [not_stops_required]

theorem Python.check_ends (h : t.kind ≠ .object) (before : Nat) (c : Constraint) :
    Ends (Python.check t before c) (Translates .python t.kind c) (Stops .python t.kind c) := by
  cases c with
  | pattern regex =>
      exact ((Ends.of_ok _).guarded t.kind.isTextual).congr (by simp [translates_pattern])
        fun f => by simp [not_stops_pattern]
  | length side n =>
      exact ((numeral_ends (.int n)).map.guarded t.kind.isTextual).congr translates_length.symm
        fun f => stops_length.symm
  | bound side n edge =>
      refine ((numeral_ends n).map.guarded t.kind.isNumeric).congr ?_ fun f => ?_
      · rw [translates_bound, Python.writes_iff]
      · rw [stops_bound, Python.numberStops_iff]
  | allowed vs =>
      have hk : (t.kind == .object) = false := by simpa using h
      have htexts := @haveTexts_iff vs
      simp only [Python.check, hk, Bool.false_eq_true, if_false]
      cases hvs : Value.haveTexts vs with
      | true =>
          have hall : ∀ v ∈ vs, Expresses .python t.kind v := fun v hv =>
            Python.expresses_iff.mpr (htexts.mp hvs v hv)
          refine (Ends.of_ok _).congr (iff_of_true trivial (.allowed hall)) fun f => ?_
          refine iff_of_false id fun hstops => ?_
          obtain ⟨before, v, after, rfl, -, hv⟩ := stops_allowed.mp hstops
          exact (Python.valueStops_iff.mp hv).1
            (Python.expresses_iff.mp (hall v (by simp)))
      | false =>
          have hnot : ¬ ∀ v ∈ vs, Expresses .python t.kind v := fun hall => by
            have hfine := htexts.mpr fun v hv => Python.expresses_iff.mp (hall v hv)
            exact absurd (hvs ▸ hfine) Bool.false_ne_true
          refine (Ends.of_fault .value).congr
            (iff_of_false id fun h => hnot (translates_allowed.mp h)) fun f => ?_
          rw [stops_allowed]
          constructor
          · rintro rfl
            exact reaches_of_not_all (fun v _ hv => Python.valueStops_iff.mpr
              ⟨fun h => hv (Python.expresses_iff.mpr h), rfl⟩) hnot
          · rintro ⟨before, v, after, -, -, hv⟩
            exact (Python.valueStops_iff.mp hv).2
  | required =>
      exact (Ends.of_ok _).congr (iff_of_true trivial .required) fun f => by
        simp [not_stops_required]

theorem CSharp.checks_ends (h : t.kind ≠ .object) (cs : List Constraint) : ∀ taken,
    Ends (CSharp.checks t taken cs) (∀ c ∈ cs, Translates .csharp t.kind c)
      fun f => Reaches (Translates .csharp t.kind) (Stops .csharp t.kind · f) cs := by
  induction cs with
  | nil =>
      intro taken
      exact (Ends.of_ok []).congr (by simp) fun f => iff_of_false id not_reaches_nil
  | cons c cs ih =>
      intro taken
      rw [CSharp.checks]
      refine ((CSharp.check_ends h _ c).bind fun made _ => ?_).congr
        List.forall_mem_cons.symm fun f => (@reaches_cons _ _ (Stops .csharp t.kind · f) c cs).symm
      cases made with
      | none => exact ih taken
      | some made => exact (ih _).andThen fun rest => ⟨made :: rest, rfl⟩

theorem Python.checks_ends (h : t.kind ≠ .object) (cs : List Constraint) : ∀ before,
    Ends (Python.checks t before cs) (∀ c ∈ cs, Translates .python t.kind c)
      fun f => Reaches (Translates .python t.kind) (Stops .python t.kind · f) cs := by
  induction cs with
  | nil =>
      intro before
      exact (Ends.of_ok _).congr (by simp) fun f => iff_of_false id not_reaches_nil
  | cons c cs ih =>
      intro before
      rw [Python.checks]
      refine ((Python.check_ends h before c).bind fun made _ => ?_).congr
        List.forall_mem_cons.symm fun f => (@reaches_cons _ _ (Stops .python t.kind · f) c cs).symm
      exact (ih _).andThen fun rest => ⟨_, rfl⟩

end Constraints

/-! ## Types and models -/

/-- The data types that a language gives a file for, as far as their own values go. -/
structure Emits (l : Language) (t : DataType) : Prop where
  scalar : t.kind ≠ .object
  translates : ∀ c ∈ t.constraints, Translates l t.kind c

/-- The data types that stop a language: one of their constraints does, and those before it are
translated. -/
structure TypeStops (l : Language) (t : DataType) (f : Fault) : Prop where
  scalar : t.kind ≠ .object
  reaches : Reaches (Translates l t.kind) (Stops l t.kind · f) t.constraints

section Types

variable {l : Language} {o : Options}

theorem primitive_ends (t : DataType) : Ends (primitive l o t) (Emits l t) (TypeStops l t) := by
  rw [primitive]
  cases hk : t.isReference with
  | true =>
      have hobject : t.kind = .object := by simpa [DataType.isReference] using hk
      exact (Ends.of_problem _).congr (iff_of_false id fun h => h.scalar hobject)
        fun f => iff_of_false id fun h => h.scalar hobject
  | false =>
      have hscalar : t.kind ≠ .object := by simpa [DataType.isReference] using hk
      have hemits : (∀ c ∈ t.constraints, Translates l t.kind c) ↔ Emits l t :=
        ⟨fun h => ⟨hscalar, h⟩, Emits.translates⟩
      have hstops : ∀ f, Reaches (Translates l t.kind) (Stops l t.kind · f) t.constraints ↔
          TypeStops l t f := fun f => ⟨fun h => ⟨hscalar, h⟩, TypeStops.reaches⟩
      cases l with
      | csharp =>
          obtain ⟨type, htype⟩ := CSharp.typeOf_scalar hscalar
          simp only [CSharp.primitive, htype]
          exact (((CSharp.checks_ends hscalar t.constraints _).andThen fun cs => ⟨_, rfl⟩).andThen
            fun lines => ⟨_, rfl⟩).congr hemits hstops
      | python =>
          obtain ⟨type, htype⟩ := Python.typeOf_scalar hscalar
          simp only [Python.primitive, htype]
          exact (((Python.checks_ends hscalar t.constraints _).andThen fun cs => ⟨_, rfl⟩).andThen
            fun lines => ⟨_, rfl⟩).congr hemits hstops

theorem scalar_of_not_isReference {t : DataType} (h : ¬ t.isReference = true) :
    t.kind ≠ .object := by
  simpa [DataType.isReference] using h

theorem CSharp.givenBack_ok (f : Field) : ∃ s, CSharp.givenBack f = .ok s := by
  rw [CSharp.givenBack]
  by_cases hreference : f.dataType.isReference = true
  · simp only [hreference, if_true]
    cases f.isCollection <;> exact ⟨_, rfl⟩
  · obtain ⟨type, htype⟩ := CSharp.typeOf_scalar (scalar_of_not_isReference hreference)
    simp only [hreference, htype]
    cases f.isCollection <;> exact ⟨_, rfl⟩

theorem CSharp.dtoPropertyType_ok (o : Options) (f : Field) :
    ∃ s, CSharp.dtoPropertyType o f = .ok s := by
  rw [CSharp.dtoPropertyType]
  by_cases hreference : f.dataType.isReference = true
  · simp only [hreference, if_true]
    cases f.isCollection <;> exact ⟨_, rfl⟩
  · obtain ⟨type, htype⟩ := CSharp.typeOf_scalar (scalar_of_not_isReference hreference)
    simp only [hreference, htype]
    cases f.isCollection <;> exact ⟨_, rfl⟩

theorem Python.markedHint_ok (o : Options) (f : Field) : ∃ s, Python.markedHint o f = .ok s := by
  rw [Python.markedHint, Python.dtoHint]
  by_cases hreference : f.dataType.isReference = true
  · simp only [hreference, if_true]
    exact ⟨_, rfl⟩
  · obtain ⟨type, htype⟩ := Python.typeOf_scalar (scalar_of_not_isReference hreference)
    simp only [hreference, htype]
    exact ⟨_, rfl⟩

/-- Every model has a file. -/
theorem model_ok (x : Model) : ∃ a, model l o x = .ok a := by
  cases l with
  | csharp =>
      obtain ⟨back, hback⟩ := exists_mapM CSharp.givenBack_ok x.fields
      simp only [model, CSharp.model, hback]
      exact ⟨_, rfl⟩
  | python => exact ⟨_, rfl⟩

/-- Every model has a file for its boundary type. -/
theorem dto_ok (x : Model) : ∃ a, dto l o x = .ok a := by
  cases l with
  | csharp =>
      obtain ⟨types, htypes⟩ := exists_mapM (CSharp.dtoPropertyType_ok o) x.fields
      simp only [dto, CSharp.dto, htypes]
      exact ⟨_, rfl⟩
  | python =>
      obtain ⟨hints, hhints⟩ := exists_mapM (Python.markedHint_ok o) x.fields
      simp only [dto, Python.dto, hhints]
      exact ⟨_, rfl⟩

/-! ## All files -/

/-- The files of metadata, whether or not two of them have one path. -/
def rendered (l : Language) (o : Options) (m : Metadata) :
    Except EmissionFailure (List Artifact) := do
  let primitives ← m.dataTypes.mapM (primitive l o)
  let models ← m.models.mapM (model l o)
  let dtos ← m.models.mapM (dto l o)
  return primitives ++ models ++ dtos ++ packages l o m

/-- Files are given as they are rendered, unless two of them have one path. -/
theorem artifacts_eq (m : Metadata) : artifacts l o m =
    match rendered l o m with
    | .ok all => (checkPaths l [] all).map fun _ => all
    | .error e => .error e := by
  obtain ⟨models, hmodels⟩ := exists_mapM (@model_ok l o) m.models
  obtain ⟨dtos, hdtos⟩ := exists_mapM (@dto_ok l o) m.models
  rw [artifacts, rendered, hmodels, hdtos]
  cases m.dataTypes.mapM (primitive l o) with
  | error e => rfl
  | ok primitives =>
      show (checkPaths l [] (primitives ++ models ++ dtos ++ packages l o m) >>= fun _ => _) =
        (checkPaths l [] (primitives ++ models ++ dtos ++ packages l o m)).map _
      cases checkPaths l [] (primitives ++ models ++ dtos ++ packages l o m) with
      | error e => rfl
      | ok _ => rfl

theorem rendered_ends (m : Metadata) : Ends (rendered l o m) (∀ t ∈ m.dataTypes, Emits l t)
    fun f => Reaches (Emits l) (TypeStops l · f) m.dataTypes := by
  obtain ⟨models, hmodels⟩ := exists_mapM (@model_ok l o) m.models
  obtain ⟨dtos, hdtos⟩ := exists_mapM (@dto_ok l o) m.models
  rw [rendered, hmodels, hdtos]
  exact (Ends.mapM primitive_ends m.dataTypes).andThen fun primitives => ⟨_, rfl⟩

/-- The check of the paths meets no faults. -/
theorem artifacts_fault {m : Metadata} {f : Fault} :
    artifacts l o m = .error (.fault f) ↔ rendered l o m = .error (.fault f) := by
  rw [artifacts_eq]
  cases rendered l o m with
  | error e => exact Iff.rfl
  | ok all =>
      cases hcheck : checkPaths l [] all with
      | ok _ => simp [hcheck, Except.map]
      | error x =>
          obtain ⟨first, a, -, rfl⟩ := checkPaths_error hcheck
          simp [hcheck, Except.map]

/-- Generating code stops at a fault exactly where a data type stops the language at it, after data
types that it has files for; otherwise there are files or a problem.  A type stops a language by an
infinite bound or one that is no number, where C# writes integers, or by an integer whose numeral is
too long. -/
theorem artifacts_fault_iff {m : Metadata} {f : Fault} :
    artifacts l o m = .error (.fault f) ↔ Reaches (Emits l) (TypeStops l · f) m.dataTypes :=
  artifacts_fault.trans ((rendered_ends m).fault f)

/-- An integer type that is bounded by infinity. -/
def unboundedAge : DataType where
  name := "Age"
  kind := .int32
  constraints := [.bound .lower (.float (.inf false)) .inclusive]

theorem unboundedAge_stops :
    artifacts .csharp {} ⟨[unboundedAge], []⟩ = .error (.fault .overflow) := by
  refine artifacts_fault_iff.mpr ⟨[], unboundedAge, [], rfl, by simp, by decide, ?_⟩
  refine ⟨[], .bound .lower (.float (.inf false)) .inclusive, [], rfl, by simp, ?_⟩
  exact .bound rfl (.infinite ⟨rfl, rfl⟩ (.inr rfl))

end Types

end Typewright.Emission
