/-
Lower and upper case.

Lower case is that of Unicode with its two rules for whole texts: the capital I with a dot above
becomes two characters, and a capital sigma takes its final form at the end of a word. Upper case
is needed for the letters of names and methods only.
-/
import Typewright.Text.CaseTable
import Typewright.Text.Class

namespace Typewright.Text

/-- The lower case form of one character, where it is one character. -/
def lowerChar (c : Char) : Char :=
  if c.toNat < 0x80 then
    if isAsciiUpper c then Char.ofNat (c.toNat + 32) else c
  else
    match CaseTable.toLower.find? (·.run.contains c.toNat) with
    | some s => Char.ofNat (c.toNat + s.distance).toNat
    | none => c

/-- The upper case form of `a` to `z`; other characters are kept. -/
def upperChar (c : Char) : Char :=
  if isAsciiLower c then Char.ofNat (c.toNat - 32) else c

/-- Whether the text that follows keeps a sigma from being final: the first character that is not
looked through has a case. -/
def casedNext (rest : List Char) : Bool :=
  ((rest.dropWhile isCaseIgnorable).head?.map isCased).getD false

/-- The lower case form of a character between the text before it, of which `afterCased` says
whether its last character that is not looked through has a case, and the text after it. -/
def lowerAt (afterCased : Bool) (c : Char) (rest : List Char) : List Char :=
  if c.toNat == 0x130 then ['i', Char.ofNat 0x307]
  else if c.toNat == 0x3A3 then [Char.ofNat (if afterCased && !casedNext rest then 0x3C2 else 0x3C3)]
  else [lowerChar c]

/-- Lower case of a text from some point on. -/
def lowerFrom (afterCased : Bool) : List Char → List Char
  | [] => []
  | c :: rest =>
    lowerAt afterCased c rest ++
      lowerFrom (if isCaseIgnorable c then afterCased else isCased c) rest

/-- Lower case of a list of characters. -/
def lowerChars (s : List Char) : List Char := lowerFrom false s

/-- Lower case of a text. -/
def lower (s : String) : String := String.ofList (lowerChars s.toList)

/-- A text with the letters `a` to `z` in upper case. -/
def upper (s : String) : String := String.ofList (s.toList.map upperChar)

end Typewright.Text
