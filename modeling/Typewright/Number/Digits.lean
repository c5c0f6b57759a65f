/-
Numerals: reading and writing natural numbers and integers in a base.
-/
import Typewright.Text.Class

namespace Typewright.Number

/-- A power of two. -/
def twoTo (n : Nat) : Nat := Nat.pow 2 n

/-- A power of ten. -/
def tenTo (n : Nat) : Nat := Nat.pow 10 n

/-- The length of the longest decimal numeral that is read or written as an integer. -/
def maxDigits : Nat := 4300

/-- The value of a digit in the bases up to 36, with letters of either case. -/
def digitOf? (c : Char) : Option Nat :=
  if Text.isAsciiDigit c then some (c.toNat - 48)
  else if Text.isAsciiLower c then some (c.toNat - 87)
  else if Text.isAsciiUpper c then some (c.toNat - 55)
  else none

/-- The digit of a base. -/
def digitIn? (base : Nat) (c : Char) : Option Nat :=
  (digitOf? c).filter (· < base)

/-- The number that the digits write, after the number that the digits before them write. -/
def readDigits (base : Nat) : Nat → List Char → Option Nat
  | n, [] => some n
  | n, c :: r =>
    match digitIn? base c with
    | some d => readDigits base (n * base + d) r
    | none => none

/-- The number that a non-empty list of digits writes. -/
def readNat? (base : Nat) (s : List Char) : Option Nat :=
  if s.isEmpty then none else readDigits base 0 s

/-- The number that a stretch of decimal digits writes; other characters count as zero. -/
def decimalValue (s : List Char) : Nat :=
  s.foldl (fun n c => n * 10 + ((digitIn? 10 c).getD 0)) 0

/-- The decimal digits of a number. -/
def decimalDigits (n : Nat) : List Char := Nat.toDigits 10 n

/-- The decimal numeral of an integer. -/
def intText (n : Int) : String :=
  if n < 0 then "-" ++ Nat.repr n.natAbs else Nat.repr n.natAbs

/-- A number with leading zeros up to a width. -/
def padded (width n : Nat) : List Char :=
  let s := decimalDigits n
  List.replicate (width - s.length) '0' ++ s

/-- The lower case hexadecimal digits of a number, with leading zeros up to a width. -/
def hexPadded (width n : Nat) : List Char :=
  let s := Nat.toDigits 16 n
  List.replicate (width - s.length) '0' ++ s

end Typewright.Number
