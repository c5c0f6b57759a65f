/-
Quoted texts.

A text is quoted with single quotes, or with double quotes where it holds single quotes and no
double ones. Backslashes and the quote that is used are escaped, and every character that is not
shown as it is is written by its code point.
-/
import Typewright.Number.Digits

namespace Typewright.Text

/-- The quote for a text. -/
def quoteFor (s : List Char) : Char :=
  if s.contains '\'' && !s.contains '"' then '"' else '\''

/-- A character by its code point, in two, four or eight hexadecimal digits. -/
def codePointEscape (c : Char) : List Char :=
  let n := c.toNat
  if n ≤ 0xFF then ['\\', 'x'] ++ Number.hexPadded 2 n
  else if n ≤ 0xFFFF then ['\\', 'u'] ++ Number.hexPadded 4 n
  else ['\\', 'U'] ++ Number.hexPadded 8 n

/-- A character inside a quoted text. -/
def quotedChar (quote c : Char) : List Char :=
  if c == quote || c == '\\' then ['\\', c]
  else if c == '\t' then ['\\', 't']
  else if c == '\n' then ['\\', 'n']
  else if c == '\r' then ['\\', 'r']
  else if isPrintable c then [c]
  else codePointEscape c

/-- A text in quotes. -/
def quotedChars (s : List Char) : List Char :=
  let q := quoteFor s
  q :: s.flatMap (quotedChar q) ++ [q]

/-- A text in quotes. -/
def quoted (s : String) : String := String.ofList (quotedChars s.toList)

/-- A byte inside a quoted byte string. -/
def quotedByte (quote : Char) (b : UInt8) : List Char :=
  let c := Char.ofNat b.toNat
  if b < 0x20 || 0x7F ≤ b then
    if c == '\t' then ['\\', 't']
    else if c == '\n' then ['\\', 'n']
    else if c == '\r' then ['\\', 'r']
    else ['\\', 'x'] ++ Number.hexPadded 2 b.toNat
  else if c == quote || c == '\\' then ['\\', c]
  else [c]

/-- A byte string in quotes, with the mark of byte strings before them. -/
def quotedBytes (bs : List UInt8) : String :=
  let q := quoteFor (bs.map fun b => Char.ofNat b.toNat)
  String.ofList ('b' :: q :: bs.flatMap (quotedByte q) ++ [q])

end Typewright.Text
