/-
The shortest decimal text of a double precision number.

A number is written with the fewest digits that read back as the same number, and among those
with the digits nearest to it.
-/
import Typewright.Number.Binary64

namespace Typewright.Number

/-- A decimal text: digits, and the place of the point counted from their front. -/
structure Decimals where
  digits : List Char
  point : Int
deriving Repr, DecidableEq

/-- A positive number and the numbers halfway to its neighbours, over one denominator. -/
structure Interval where
  low : Nat
  value : Nat
  high : Nat
  den : Nat
  /-- Whether the ends round to the number. -/
  closed : Bool

namespace Interval

/-- The interval of the rationals that round to `m * 2 ^ e`. -/
def of (m : Nat) (e : Int) : Interval :=
  let low := if m == twoTo 52 && Binary64.minExponent < e then 4 * m - 1 else 4 * m - 2
  let up := if 2 ≤ e then twoTo (e - 2).toNat else 1
  let den := if 2 ≤ e then 1 else twoTo (2 - e).toNat
  ⟨low * up, 4 * m * up, (4 * m + 2) * up, den, m % 2 == 0⟩

/-- Whether `num / den` rounds to the number. -/
def holds (i : Interval) (num den : Nat) : Bool :=
  let above := i.low * den
  let below := i.high * den
  let x := num * i.den
  if i.closed then above ≤ x && x ≤ below else above < x && x < below

/-- The place of the point: the least `k` with `value < 10 ^ k`, searched upwards from a value
below one by the number of zeros behind the point. -/
def place (i : Interval) : Int :=
  if i.den ≤ i.value then (decimalDigits (i.value / i.den)).length
  else zeros 400 i.value 0
where
  zeros : Nat → Nat → Int → Int
    | 0, _, k => k
    | fuel + 1, v, k => if i.den ≤ v * 10 then k else zeros fuel (v * 10) (k - 1)

/-- The text with `n` digits that rounds to the number, if there is one. -/
def withDigits? (i : Interval) (place : Int) (n : Nat) : Option Decimals :=
  let unit := place - n
  let up := if 0 ≤ unit then tenTo unit.toNat else 1
  let down := if 0 ≤ unit then 1 else tenTo (-unit).toNat
  let c := i.value * down / (i.den * up)
  let below := i.holds (c * up) down
  let above := i.holds ((c + 1) * up) down
  let twice := (2 * c + 1) * up * i.den
  let nearer :=
    if below && above then
      if twice < 2 * i.value * down then c + 1
      else if 2 * i.value * down < twice then c
      else c + c % 2
    else if above then c + 1 else c
  if below || above then
    let ds := decimalDigits nearer
    some ⟨ds, place + ((ds.length : Int) - n)⟩
  else none

/-- The shortest text that rounds to the number. -/
def shortest (i : Interval) : Decimals :=
  let k := i.place
  ((List.range 17).findSome? fun n => i.withDigits? k (n + 1)).getD ⟨['0'], 1⟩

end Interval

/-- Digits without the zeros at their end, of which one digit is left. -/
def trimZeros (ds : List Char) : List Char :=
  match (ds.reverse.dropWhile (· == '0')).reverse with
  | [] => ['0']
  | r => r

/-- A decimal text written out: positional between `10 ^ -4` and `10 ^ 16` and with an exponent of
at least two digits outside; a whole number ends in `.0`. -/
def Decimals.render (d : Decimals) : List Char :=
  let ds := trimZeros d.digits
  let n : Int := ds.length
  if d.point ≤ -4 || 16 < d.point then
    let x := d.point - 1
    let mantissa := match ds with
      | c :: c' :: r => c :: '.' :: c' :: r
      | r => r
    mantissa ++ ['e', if x < 0 then '-' else '+'] ++ padded 2 x.natAbs
  else if d.point ≤ 0 then
    '0' :: '.' :: List.replicate (-d.point).toNat '0' ++ ds
  else if n ≤ d.point then
    ds ++ List.replicate (d.point - n).toNat '0' ++ ['.', '0']
  else ds.take d.point.toNat ++ '.' :: ds.drop d.point.toNat

/-- The text of a double precision number. -/
def Binary64.text : Binary64 → String
  | .nan => "nan"
  | .inf s => if s then "-inf" else "inf"
  | .finite s m e =>
    let body := if m == 0 then ['0', '.', '0'] else (Interval.of m e).shortest.render
    String.ofList (if s then '-' :: body else body)

end Typewright.Number
