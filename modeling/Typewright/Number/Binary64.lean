/-
Double precision numbers.

A finite number is a sign, a significand and a power of two, so it denotes an exact rational.
Rounding goes to the nearest number of the format, and from halfway to the even significand.
-/
import Typewright.Number.Digits

namespace Typewright.Number

/-- A double precision number; `finite neg m e` is `m * 2 ^ e`, negated if `neg`. -/
inductive Binary64 where
  | nan
  | inf (neg : Bool)
  | finite (neg : Bool) (m : Nat) (e : Int)
deriving Repr, DecidableEq

/-- The quotient nearest to `num / den`, the even one from halfway. -/
def roundDiv (num den : Nat) : Nat :=
  let q := num / den
  let r := num % den
  if 2 * r < den then q
  else if den < 2 * r then q + 1
  else q + q % 2

namespace Binary64

/-- The least exponent of the format. -/
def minExponent : Int := -1074

/-- The greatest exponent of the format. -/
def maxExponent : Int := 971

/-- The zero of a sign. -/
def zero (neg : Bool) : Binary64 := .finite neg 0 minExponent

/-- The greatest `k` with `2 ^ k ≤ num / den`, for positive numbers. -/
def binaryOrder (num den : Nat) : Int :=
  let k : Int := (num.log2 : Int) - den.log2
  if (if 0 ≤ k then den * twoTo k.toNat ≤ num else den ≤ num * twoTo (-k).toNat) then k else k - 1

/-- The number of the format that is nearest to `num / den`. -/
def ofRatio (neg : Bool) (num den : Nat) : Binary64 :=
  if num == 0 then zero neg
  else
    let e := max (binaryOrder num den - 52) minExponent
    let m := if 0 ≤ e then roundDiv num (den * twoTo e.toNat) else roundDiv (num * twoTo (-e).toNat) den
    let (m, e) := if m == twoTo 53 then (twoTo 52, e + 1) else (m, e)
    if maxExponent < e then .inf neg else .finite neg m e

/-- The number of the format that is nearest to `digits * 10 ^ exponent`. -/
def ofDecimal (neg : Bool) (digits : Nat) (exponent : Int) : Binary64 :=
  let order := ((decimalDigits digits).length : Int) + exponent
  if digits == 0 then zero neg
  else if 310 < order then .inf neg
  else if order < -330 then zero neg
  else if 0 ≤ exponent then ofRatio neg (digits * tenTo exponent.toNat) 1
  else ofRatio neg digits (tenTo (-exponent).toNat)

/-- The number of the format that is nearest to an integer. -/
def ofInt (n : Int) : Binary64 := ofRatio (n < 0) n.natAbs 1

/-- The number with the other sign. -/
def neg : Binary64 → Binary64
  | .nan => .nan
  | .inf s => .inf !s
  | .finite s m e => .finite (!s) m e

/-- The rational that a finite number denotes. -/
def toRat? : Binary64 → Option Rat
  | .finite s m e =>
    let n : Int := if s then -(m : Int) else m
    some (if 0 ≤ e then ((n * (twoTo e.toNat : Int) : Int) : Rat) else mkRat n (twoTo (-e).toNat))
  | _ => none

/-- The nearest number of the format to a rational. -/
def ofRat (x : Rat) : Binary64 := ofRatio (x.num < 0) x.num.natAbs x.den

/-- A finite number without its fraction. -/
def truncate? : Binary64 → Option Int
  | .finite s m e =>
    let n := if 0 ≤ e then m * twoTo e.toNat else m / twoTo (-e).toNat
    some (if s then -(n : Int) else n)
  | _ => none

/-- The sum of two numbers, where both are finite. -/
def add (x y : Binary64) : Binary64 :=
  match x, y with
  | .finite .., .finite .. =>
    match x.toRat?, y.toRat? with
    | some a, some b => ofRat (a + b)
    | _, _ => .nan
  | .nan, _ => .nan
  | _, .nan => .nan
  | .inf s, .inf t => if s == t then .inf s else .nan
  | .inf s, _ => .inf s
  | _, .inf t => .inf t

/-- The product of a number and a positive integer. -/
def scale (x : Binary64) (k : Nat) : Binary64 :=
  match x with
  | .finite s m e =>
    if 0 ≤ e then ofRatio s (m * twoTo e.toNat * k) 1 else ofRatio s (m * k) (twoTo (-e).toNat)
  | _ => x

end Binary64

end Typewright.Number
