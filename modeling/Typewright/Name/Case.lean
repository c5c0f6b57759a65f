/-
Spellings of names.

A name is read as words of ASCII letters and digits with anything else between them, and written
again in one of three spellings: `PascalCase`, `camelCase` or `snake_case`. A name without any
word is kept as it is in each of them.
-/
import Typewright.Text.Case
import Typewright.Text.Edit

namespace Typewright.Name

/-- The words of a name. -/
def wordChars (s : List Char) : List (List Char) := Text.stretches Text.isWordChar s

/-- The words of a name. -/
def words (s : String) : List String := (wordChars s.toList).map String.ofList

/-- Puts an underscore before a name that would start with a digit. -/
def guardDigit : List Char → List Char
  | [] => []
  | c :: r => if Text.isAsciiDigit c then '_' :: c :: r else c :: r

/-! ## Pascal case and camel case -/

/-- Whether a word is an acronym: it has a letter, and no small one. -/
def isAcronym (w : List Char) : Bool := w.any Text.isAsciiUpper && !w.any Text.isAsciiLower

/-- A word with its first letter in upper case; acronyms are kept. -/
def capitalize (w : List Char) : List Char :=
  if isAcronym w then w
  else match w with
    | [] => []
    | c :: r => Text.upperChar c :: r

/-- The Pascal case spelling of a name. -/
def pascalChars (s : List Char) : List Char :=
  match wordChars s with
  | [] => s
  | ws => guardDigit (ws.flatMap capitalize)

/-- The Pascal case spelling of a name. -/
def pascal (s : String) : String := String.ofList (pascalChars s.toList)

/-- A name with its first character in lower case, if that is an upper case letter. -/
def lowerFirst : List Char → List Char
  | [] => []
  | c :: r => if Text.isUpper c then Text.lowerChars [c] ++ r else c :: r

/-- The camel case spelling of a name. -/
def camel (s : String) : String := String.ofList (lowerFirst (pascalChars s.toList))

/-! ## Snake case -/

/-- Puts an underscore between two groups of characters wherever they are found, from left to right and
without overlaps; `skip` characters of groups that were found are still to be passed over. -/
def partFrom (found? : List Char → Option (List Char × List Char)) : Nat → List Char → List Char
  | _, [] => []
  | skip + 1, _ :: r => partFrom found? skip r
  | 0, c :: r =>
    match found? (c :: r) with
    | none => c :: partFrom found? 0 r
    | some (before, after) =>
      before ++ '_' :: after ++ partFrom found? (before.length + after.length - 1) r

/-- Capital letters, as many as there are, and then a capital and a small letter. -/
def capitalsThenWord? (s : List Char) : Option (List Char × List Char) :=
  let capitals := s.takeWhile Text.isAsciiUpper
  match capitals.getLast?, s.dropWhile Text.isAsciiUpper with
  | some last, small :: _ =>
    if 2 ≤ capitals.length && Text.isAsciiLower small then some (capitals.dropLast, [last, small])
    else none
  | _, _ => none

/-- A small letter or a digit, and then a capital. -/
def smallThenCapital? : List Char → Option (List Char × List Char)
  | b :: c :: _ =>
    if (Text.isAsciiLower b || Text.isDigit b) && Text.isAsciiUpper c then some ([b], [c]) else none
  | _ => none

/-- A camel case name with an underscore between each two words: first behind acronyms, then behind other
words. -/
def separate (s : List Char) : List Char :=
  partFrom smallThenCapital? 0 (partFrom capitalsThenWord? 0 s)

/-- A camel case name in lower case, with an underscore between each two words. -/
def separatedChars (s : List Char) : List Char := Text.lowerChars (separate s)

/-- A camel case name in lower case, with an underscore between each two words. -/
def separated (s : String) : String := String.ofList (separatedChars s.toList)

/-- Words with an underscore between each two of them. -/
def joinWords : List (List Char) → List Char
  | [] => []
  | [w] => w
  | w :: v :: r => w ++ '_' :: joinWords (v :: r)

/-- The snake case spelling of a name. -/
def snakeChars (s : List Char) : List Char :=
  match wordChars (separatedChars s) with
  | [] => s
  | ws => guardDigit (joinWords ws)

/-- The snake case spelling of a name. -/
def snake (s : String) : String := String.ofList (snakeChars s.toList)

end Typewright.Name
