/-
Editing of texts: trimming, splitting, replacing.

Each function works on the list of characters; the versions on `String` only convert.
-/
import Typewright.Text.Class

namespace Typewright.Text

/-! ## Trimming -/

/-- A list without its last elements that pass the test. -/
def dropEndWhile (p : Char → Bool) (s : List Char) : List Char :=
  (s.reverse.dropWhile p).reverse

/-- A list without the elements at its ends that pass the test. -/
def trimWhile (p : Char → Bool) (s : List Char) : List Char :=
  dropEndWhile p (s.dropWhile p)

/-- A text without white space at its ends. -/
def strip (s : String) : String := String.ofList (trimWhile isBlank s.toList)

/-- A text without white space at its end. -/
def stripRight (s : String) : String := String.ofList (dropEndWhile isBlank s.toList)

/-- Whether nothing but white space is in a text. -/
def isBlankText (s : String) : Bool := s.toList.all isBlank

/-! ## Splitting -/

/-- The pieces between the separators; there is one more of them than there are separators. -/
def splitChar (sep : Char) : List Char → List (List Char)
  | [] => [[]]
  | c :: r =>
    if c == sep then [] :: splitChar sep r
    else match splitChar sep r with
      | [] => [[c]]
      | piece :: pieces => (c :: piece) :: pieces

/-- The pieces of a text between the separators. -/
def split (sep : Char) (s : String) : List String := (splitChar sep s.toList).map String.ofList

/-- The maximal stretches of characters that pass the test. -/
def stretches (p : Char → Bool) : List Char → List (List Char)
  | [] => []
  | c :: r =>
    if p c then
      match r, stretches p r with
      | d :: _, w :: ws => if p d then (c :: w) :: ws else [c] :: w :: ws
      | _, ws => [c] :: ws
    else stretches p r

/-- The lines of a list of characters, without their breaks; a carriage return and the line feed
after it are one break, and a break at the very end starts no further line. -/
def lineChars : List Char → List (List Char)
  | [] => []
  | '\r' :: '\n' :: r => [] :: lineChars r
  | c :: r =>
    if isLineBreak c then [] :: lineChars r
    else match lineChars r with
      | [] => [[c]]
      | l :: ls => (c :: l) :: ls

/-- The lines of a text. -/
def lines (s : String) : List String := (lineChars s.toList).map String.ofList

/-- Whether a text is a part of another one. -/
def containsChars (part : List Char) : List Char → Bool
  | [] => part.isEmpty
  | c :: r => part.isPrefixOf (c :: r) || containsChars part r

/-- Whether a text is a part of another one. -/
def contains (part s : String) : Bool := containsChars part.toList s.toList

/-! ## Replacing -/

/-- Replaces every occurrence of a text, from left to right and without overlaps; `skip`
characters of an occurrence that has been replaced are still to be passed over. -/
def replaceFrom (old new : List Char) : Nat → List Char → List Char
  | _, [] => []
  | skip + 1, _ :: r => replaceFrom old new skip r
  | 0, c :: r =>
    if old.isPrefixOf (c :: r) then new ++ replaceFrom old new (old.length - 1) r
    else c :: replaceFrom old new 0 r

/-- Replaces every occurrence of a non-empty text. -/
def replaceChars (old new s : List Char) : List Char := replaceFrom old new 0 s

/-- Replaces every occurrence of a non-empty text. -/
def replace (old new s : String) : String :=
  String.ofList (replaceChars old.toList new.toList s.toList)

/-- Replaces every stretch of characters that pass the test by one text. -/
def collapse (p : Char → Bool) (mark : List Char) : List Char → List Char
  | [] => []
  | c :: r =>
    if p c then
      match r with
      | d :: _ => if p d then collapse p mark r else mark ++ collapse p mark r
      | [] => mark
    else c :: collapse p mark r

/-- Texts with a text between each two of them. -/
def join (sep : String) : List String → String
  | [] => ""
  | [s] => s
  | s :: t :: r => s ++ sep ++ join sep (t :: r)

end Typewright.Text
