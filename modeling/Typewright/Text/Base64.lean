/-
Decoding base 64.

Each four characters of the alphabet are three bytes. Characters outside of the alphabet are passed
over; the text ends with an equals sign that completes four characters.
-/
import Typewright.Number.Digits

namespace Typewright.Text.Base64

/-- Why a text cannot be decoded. -/
inductive Error where
  /-- One character is left over; the count includes it. -/
  | count (n : Nat)
  | padding
deriving Repr, DecidableEq

/-- An error in words. -/
def Error.message : Error → String
  | .count n => "Invalid base64-encoded string: number of data characters (" ++ Nat.repr n ++
      ") cannot be 1 more than a multiple of 4"
  | .padding => "Incorrect padding"

/-- The value of a character of the alphabet. -/
def sextet? (c : Char) : Option Nat :=
  if Text.isAsciiUpper c then some (c.toNat - 65)
  else if Text.isAsciiLower c then some (c.toNat - 71)
  else if Text.isAsciiDigit c then some (c.toNat + 4)
  else if c == '+' then some 62
  else if c == '/' then some 63
  else none

/-- How far a group of four characters has been read: how many characters, the bits of the last of
them that are in no byte yet, and how many equals signs came after it. -/
structure Group where
  count : Nat := 0
  bits : Nat := 0
  pads : Nat := 0

/-- The bytes of a text after some characters of a group; `done` holds the bytes so far in
reverse. -/
def decodeFrom (g : Group) (done : List UInt8) : List Char → Except Error (List UInt8)
  | [] =>
    if g.count == 0 then .ok done.reverse
    else if g.count == 1 then .error (.count (done.length / 3 * 4 + 1))
    else .error .padding
  | c :: r =>
    if c == '=' then
      if 2 ≤ g.count then
        if 4 ≤ g.count + g.pads + 1 then .ok done.reverse
        else decodeFrom { g with pads := g.pads + 1 } done r
      else decodeFrom g done r
    else match sextet? c with
      | none => decodeFrom g done r
      | some v =>
        let byte (n : Nat) : List UInt8 := UInt8.ofNat n :: done
        match g.count with
        | 0 => decodeFrom { count := 1, bits := v } done r
        | 1 => decodeFrom { count := 2, bits := v % 16 } (byte (g.bits * 4 + v / 16)) r
        | 2 => decodeFrom { count := 3, bits := v % 4 } (byte (g.bits * 16 + v / 4)) r
        | _ => decodeFrom {} (byte (g.bits * 64 + v)) r

/-- The bytes of a text. -/
def decode (s : List Char) : Except Error (List UInt8) := decodeFrom {} [] s

end Typewright.Text.Base64
