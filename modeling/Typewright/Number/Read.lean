/-
Reading numbers from texts, with the limit on the length of a numeral.
-/
import Typewright.Number.Basic
import Typewright.Text.Edit

namespace Typewright.Number

/-- Reads a double precision number: a numeral, an infinity or a `nan`, with a sign. -/
def Binary64.read? (s : List Char) : Option Binary64 :=
  let (neg, r) := takeSign s
  let word := plainLower r
  if word == "inf".toList || word == "infinity".toList then some (.inf neg)
  else if word == "nan".toList then some .nan
  else (readNumeral? r).map fun n => .ofDecimal neg n.digits n.power

/-- The characters of a numeral in the digits `0` to `9`, whatever script wrote them. -/
def plainDigits (s : List Char) : List Char :=
  s.map fun c =>
    if c.toNat < 0x80 then c
    else match Text.digitValue? c with
      | some d => Char.ofNat (48 + d)
      | none => c

/-- Reads an integer in a base of at most 36: a sign and digits, with white space around them. -/
def readInt? (base : Nat) (s : List Char) : Option Int :=
  let (neg, ds) := takeSign (plainDigits (Text.trimWhile Text.isBlank s))
  if base == 10 && maxDigits < ds.length then none
  else (readNat? base ds).map fun n => if neg then -(n : Int) else n

end Typewright.Number
