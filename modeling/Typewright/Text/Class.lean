/-
Classes of characters.

The tests here decide what is shown as it is, what is trimmed, what ends a line, what counts as a
digit or an upper case letter and what an identifier is made of. They follow version 14 of the
Unicode character database, whose data is in `Typewright.Text.ClassTable`.
-/
import Typewright.Text.ClassTable

namespace Typewright.Text

/-- White space: what is trimmed from the ends of a text. -/
def isBlank (c : Char) : Bool :=
  let n := c.toNat
  (9 ≤ n && n ≤ 13) || (28 ≤ n && n ≤ 32) || n == 0x85 || n == 0xA0 || n == 0x1680 ||
    (0x2000 ≤ n && n ≤ 0x200A) || n == 0x2028 || n == 0x2029 || n == 0x202F || n == 0x205F ||
    n == 0x3000

/-- Characters that end a line. -/
def isLineBreak (c : Char) : Bool :=
  let n := c.toNat
  (10 ≤ n && n ≤ 13) || (28 ≤ n && n ≤ 30) || n == 0x85 || n == 0x2028 || n == 0x2029

/-- Characters that a quoted text shows as they are. -/
def isPrintable (c : Char) : Bool :=
  if c.toNat < 0x7F then 0x20 ≤ c.toNat else !inRuns ClassTable.unprintable c

/-- The letters `a` to `z`. -/
def isAsciiLower (c : Char) : Bool := 'a' ≤ c && c ≤ 'z'

/-- The letters `A` to `Z`. -/
def isAsciiUpper (c : Char) : Bool := 'A' ≤ c && c ≤ 'Z'

/-- The digits `0` to `9`. -/
def isAsciiDigit (c : Char) : Bool := '0' ≤ c && c ≤ '9'

/-- The letters and digits of names: `0` to `9`, `A` to `Z` and `a` to `z`. -/
def isWordChar (c : Char) : Bool := isAsciiDigit c || isAsciiUpper c || isAsciiLower c

/-- Decimal digits of every script. -/
def isDigit (c : Char) : Bool :=
  if c.toNat < 0x80 then isAsciiDigit c else inRuns ClassTable.decimalDigit c

/-- The value of a decimal digit of any script. -/
def digitValue? (c : Char) : Option Nat :=
  (ClassTable.decimalDigit.find? (·.contains c.toNat)).map fun r => (c.toNat - r.first) % 10

/-- Upper case letters. -/
def isUpper (c : Char) : Bool :=
  if c.toNat < 0x80 then isAsciiUpper c else inRuns ClassTable.upperCase c

/-- Letters that have a case. -/
def isCased (c : Char) : Bool := inRuns ClassTable.cased c

/-- Characters looked through when the surroundings of a letter decide its form. -/
def isCaseIgnorable (c : Char) : Bool := inRuns ClassTable.caseIgnorable c

/-- Characters an identifier may start with. -/
def isIdentifierStart (c : Char) : Bool := inRuns ClassTable.identifierStart c

/-- Characters an identifier may go on with. -/
def isIdentifierRest (c : Char) : Bool :=
  isIdentifierStart c || inRuns ClassTable.identifierRest c

/-- Whether a text is an identifier of any script. -/
def isIdentifier : List Char → Bool
  | [] => false
  | c :: cs => isIdentifierStart c && cs.all isIdentifierRest

end Typewright.Text
