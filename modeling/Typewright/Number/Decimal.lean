/-
Decimal numbers that keep their digits.

A finite decimal is a sign, a coefficient and a power of ten: `1.10` and `1.1` denote the same
rational and are different texts. The text of a decimal is the one of scientific notation, in
which an exponent is written only for very small numbers and for positive powers of ten.
-/
import Typewright.Number.Digits

namespace Typewright.Number

/-- A decimal number; `finite neg coeff exp` is `coeff * 10 ^ exp`, negated if `neg`. -/
inductive Decimal where
  | finite (neg : Bool) (coeff : Nat) (exp : Int)
  | inf (neg : Bool)
  /-- Not a number; a signalling one may not be compared. -/
  | nan (neg : Bool) (signalling : Bool) (payload : List Char)
deriving Repr, DecidableEq

namespace Decimal

/-- The mark of a sign. -/
def signText (neg : Bool) : String := if neg then "-" else ""

/-- The digits of a finite decimal with its point and exponent. -/
def finiteText (coeff : Nat) (exp : Int) : List Char :=
  let ds := decimalDigits coeff
  let left := exp + ds.length
  let point := if exp ≤ 0 && -6 < left then left else 1
  let body :=
    if point ≤ 0 then '0' :: '.' :: List.replicate (-point).toNat '0' ++ ds
    else if (ds.length : Int) ≤ point then ds ++ List.replicate (point - ds.length).toNat '0'
    else ds.take point.toNat ++ '.' :: ds.drop point.toNat
  if left == point then body
  else body ++ ['E', if left < point then '-' else '+'] ++ decimalDigits (left - point).natAbs

/-- The text of a decimal. -/
def text : Decimal → String
  | .finite neg coeff exp => signText neg ++ String.ofList (finiteText coeff exp)
  | .inf neg => signText neg ++ "Infinity"
  | .nan neg signalling payload =>
    signText neg ++ (if signalling then "sNaN" else "NaN") ++ String.ofList payload

/-- The rational that a finite decimal denotes. -/
def toRat? : Decimal → Option Rat
  | .finite neg coeff exp =>
    let n : Int := if neg then -(coeff : Int) else coeff
    some (if 0 ≤ exp then ((n * (tenTo exp.toNat : Int) : Int) : Rat) else mkRat n (tenTo (-exp).toNat))
  | _ => none

/-- A finite decimal without its fraction. -/
def truncate? : Decimal → Option Int
  | .finite neg coeff exp =>
    let n := if 0 ≤ exp then coeff * tenTo exp.toNat else coeff / tenTo (-exp).toNat
    some (if neg then -(n : Int) else n)
  | _ => none

/-- Whether a decimal is not a number. -/
def isNaN : Decimal → Bool
  | .nan .. => true
  | _ => false

end Decimal

/-! ## Reading -/

/-- The parts of a numeral: digits before and after the point, and the exponent. -/
structure Numeral where
  whole : List Char
  fraction : List Char
  exponent : Int

/-- The integer after an `e`: a sign and digits. -/
def readExponent? (s : List Char) : Option Int :=
  let (neg, ds) := match s with
    | '-' :: r => (true, r)
    | '+' :: r => (false, r)
    | r => (false, r)
  if ds.isEmpty || !ds.all Text.isAsciiDigit then none
  else some (if neg then -(decimalValue ds : Int) else decimalValue ds)

/-- Reads an unsigned numeral with at least one digit, a point anywhere and an exponent. -/
def readNumeral? (s : List Char) : Option Numeral :=
  let whole := s.takeWhile Text.isAsciiDigit
  let rest := s.dropWhile Text.isAsciiDigit
  let (fraction, rest) := match rest with
    | '.' :: r => (r.takeWhile Text.isAsciiDigit, r.dropWhile Text.isAsciiDigit)
    | r => ([], r)
  if whole.isEmpty && fraction.isEmpty then none
  else match rest with
    | [] => some ⟨whole, fraction, 0⟩
    | c :: r =>
      if c == 'e' || c == 'E' then (readExponent? r).map fun x => ⟨whole, fraction, x⟩ else none

namespace Numeral

/-- The digits of a numeral as one number. -/
def digits (n : Numeral) : Nat := decimalValue (n.whole ++ n.fraction)

/-- The power of ten that the digits are to be multiplied by. -/
def power (n : Numeral) : Int := n.exponent - n.fraction.length

end Numeral

/-- The sign in front of a numeral and the text after it. -/
def takeSign : List Char → Bool × List Char
  | '-' :: r => (true, r)
  | '+' :: r => (false, r)
  | r => (false, r)

/-- A text in lower case, for texts of the letters `a` to `z`. -/
def plainLower (s : List Char) : List Char :=
  s.map fun c => if Text.isAsciiUpper c then Char.ofNat (c.toNat + 32) else c

/-- Reads the text of a decimal. -/
def Decimal.read? (s : String) : Option Decimal :=
  let (neg, r) := takeSign s.toList
  let word := plainLower r
  if word == "inf".toList || word == "infinity".toList then some (.inf neg)
  else if "nan".toList.isPrefixOf word then nan? neg false (r.drop 3)
  else if "snan".toList.isPrefixOf word then nan? neg true (r.drop 4)
  else (readNumeral? r).map fun n => .finite neg n.digits n.power
where
  nan? (neg signalling : Bool) (payload : List Char) : Option Decimal :=
    if payload.all Text.isAsciiDigit then some (.nan neg signalling (payload.dropWhile (· == '0')))
    else none

end Typewright.Number
