/-
# Numbers that are integers

A double precision number and a decimal are a signed significand times a power of two or of ten.
Where this is an integer, cutting off what follows the point gives it back (`cut_of_scaled`); so a
number that is compared with its integer part is found to be equal to it exactly where it is an
integer.
-/
import Typewright.Number.Basic
import Mathlib.Algebra.Order.Ring.Rat
import Mathlib.Data.Rat.Cast.Order
import Mathlib.Tactic.Linarith

namespace Typewright.Number

/-! ## Cutting off a fraction -/

/-- A signed significand that its scale makes an integer is cut off to this integer. -/
theorem cut_of_scaled {neg : Bool} {m : Nat} {e i : Int} {power : Nat → Nat}
    (hpower : ∀ k, 0 < power k)
    (h : (if 0 ≤ e then (((if neg then -(m : Int) else m) * (power e.toNat : Int) : Int) : Rat)
      else mkRat (if neg then -(m : Int) else m) (power (-e).toNat)) = i) :
    (if neg then -(((if 0 ≤ e then m * power e.toNat else m / power (-e).toNat : Nat)) : Int)
      else (if 0 ≤ e then m * power e.toNat else m / power (-e).toNat : Nat)) = i := by
  by_cases he : 0 ≤ e
  · rw [if_pos he] at h
    rw [if_pos he]
    have hi := Rat.intCast_inj.mp h
    cases neg with
    | false => simpa using hi
    | true => simpa using hi
  · rw [if_neg he] at h
    rw [if_neg he]
    have hpos := hpower (-e).toNat
    generalize power (-e).toNat = p at h hpos
    -- the significand is the integer times the divisor, so that dividing it leaves no rest
    have hmul : (if neg then -(m : Int) else m) = i * p := by
      rw [← Rat.divInt_ofNat, ← Rat.divInt_one i,
        Rat.divInt_eq_divInt_iff (by omega) (by omega), Int.mul_one] at h
      exact h
    have hne : (p : Int) ≠ 0 := by omega
    cases neg with
    | false =>
        have hm : (m : Int) = i * p := by simpa using hmul
        show ((m / p : Nat) : Int) = i
        rw [Int.natCast_ediv, hm, Int.mul_ediv_cancel i hne]
    | true =>
        have hneg : -(m : Int) = i * p := by simpa using hmul
        have hm : (m : Int) = -i * p := by linarith
        show -((m / p : Nat) : Int) = i
        rw [Int.natCast_ediv, hm, Int.mul_ediv_cancel (-i) hne, Int.neg_neg]

theorem twoTo_pos (k : Nat) : 0 < twoTo k := Nat.pow_pos (by omega)

theorem tenTo_pos (k : Nat) : 0 < tenTo k := Nat.pow_pos (by omega)

/-! ## Places -/

theorem Place.same_at {p : Place} {x : Rat} : p.same (.at x) = true ↔ p = .at x := by
  cases p <;> simp [Place.same]

theorem same_int {n : Number} {i : Int} : n.same (.int i) = true ↔ n.place = .at i :=
  Place.same_at

theorem place_finite {s : Bool} {m : Nat} {e : Int} {x : Rat} :
    (Number.float (.finite s m e)).place = .at x ↔ (Binary64.finite s m e).toRat? = some x := by
  simp [place, Binary64.toRat?]

theorem place_decimal {s : Bool} {c : Nat} {e : Int} {x : Rat} :
    (Number.decimal (.finite s c e)).place = .at x ↔ (Decimal.finite s c e).toRat? = some x := by
  simp [place, Decimal.toRat?]

theorem Binary64.truncate?_of_integer {s : Bool} {m : Nat} {e i : Int}
    (h : (Binary64.finite s m e).toRat? = some (i : Rat)) :
    (Binary64.finite s m e).truncate? = some i :=
  congrArg some (cut_of_scaled twoTo_pos (Option.some.inj h))

theorem Decimal.truncate?_of_integer {s : Bool} {c : Nat} {e i : Int}
    (h : (Decimal.finite s c e).toRat? = some (i : Rat)) :
    (Decimal.finite s c e).truncate? = some i :=
  congrArg some (cut_of_scaled tenTo_pos (Option.some.inj h))

end Typewright.Number
