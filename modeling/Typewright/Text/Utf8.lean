/-
Decoding UTF-8.

A character is one to four bytes; its first byte says how many, and limits the second byte so that
each character has one form only and no surrogate has any. What cannot be decoded is told by the
bytes that are wrong together and by a reason.
-/
import Typewright.Number.Digits

namespace Typewright.Text.Utf8

/-- Why bytes cannot be decoded. -/
inductive Reason where
  | startByte
  | continuation
  | endOfData
deriving Repr, DecidableEq

/-- A reason in words. -/
def Reason.message : Reason → String
  | .startByte => "invalid start byte"
  | .continuation => "invalid continuation byte"
  | .endOfData => "unexpected end of data"

/-- Bytes that cannot be decoded: where they start, how many they are, the first of them, and why. -/
structure Error where
  offset : Nat
  length : Nat
  first : UInt8
  reason : Reason
deriving Repr, DecidableEq

/-- An error in words. -/
def Error.message (e : Error) : String :=
  "'utf-8' codec can't decode " ++
    (if e.length == 1 then
      "byte 0x" ++ String.ofList (Number.hexPadded 2 e.first.toNat) ++ " in position " ++
        Nat.repr e.offset
    else "bytes in position " ++ Nat.repr e.offset ++ "-" ++ Nat.repr (e.offset + e.length - 1)) ++
    ": " ++ e.reason.message

/-- The bits that a first byte contributes, how many bytes follow it, and the bounds of the next
one. -/
def lead? (b : Nat) : Option (Nat × Nat × Nat × Nat) :=
  if b < 0x80 then some (b, 0, 0, 0)
  else if b < 0xC2 then none
  else if b < 0xE0 then some (b - 0xC0, 1, 0x80, 0xBF)
  else if b == 0xE0 then some (0, 2, 0xA0, 0xBF)
  else if b == 0xED then some (0xD, 2, 0x80, 0x9F)
  else if b < 0xF0 then some (b - 0xE0, 2, 0x80, 0xBF)
  else if b == 0xF0 then some (0, 3, 0x90, 0xBF)
  else if b < 0xF4 then some (b - 0xF0, 3, 0x80, 0xBF)
  else if b == 0xF4 then some (4, 3, 0x80, 0x8F)
  else none

/-- Reads the bytes that follow a first byte; `low` and `high` bound the next of them, and `seen` is
the number of bytes before it. -/
def follow (code left low high seen : Nat) (bytes : List UInt8) :
    Except (Nat × Reason) (Nat × List UInt8) :=
  match left, bytes with
  | 0, bytes => .ok (code, bytes)
  | _ + 1, [] => .error (seen, .endOfData)
  | left + 1, b :: bytes =>
    if low ≤ b.toNat && b.toNat ≤ high then
      follow (code * 64 + (b.toNat - 0x80)) left 0x80 0xBF (seen + 1) bytes
    else .error (seen, .continuation)

/-- Decodes at most as many characters as the fuel; `offset` is the number of bytes before, and
`done` holds the characters read so far in reverse. -/
def decodeFrom (offset : Nat) : Nat → List UInt8 → List Char → Except Error (List Char)
  | 0, _, done => .ok done.reverse
  | _ + 1, [], done => .ok done.reverse
  | fuel + 1, first :: bytes, done =>
    match lead? first.toNat with
    | none => .error ⟨offset, 1, first, .startByte⟩
    | some (code, left, low, high) =>
      match follow code left low high 1 bytes with
      | .ok (n, rest) => decodeFrom (offset + left + 1) fuel rest (Char.ofNat n :: done)
      | .error (length, reason) => .error ⟨offset, length, first, reason⟩

/-- Decodes bytes. -/
def decode (bytes : List UInt8) : Except Error (List Char) := decodeFrom 0 (bytes.length + 1) bytes []

end Typewright.Text.Utf8
