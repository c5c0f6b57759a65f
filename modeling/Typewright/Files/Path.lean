/-
Paths of files.

A path is a list of names below a root: the current directory, or one of the two roots that an
absolute path may have. Empty names and single dots are not kept; double dots are, since what they
lead to depends on the files.
-/
import Typewright.Text.Edit

namespace Typewright.Files

/-- Where a path starts. -/
inductive Root where
  | here
  | top
  | doubleTop
deriving Repr, DecidableEq

/-- The slashes that a path starts with. -/
def Root.text : Root → String
  | .here => ""
  | .top => "/"
  | .doubleTop => "//"

/-- A path. -/
structure Path where
  root : Root
  names : List String
deriving Repr, DecidableEq

namespace Path

/-- The names of a text with slashes between them. -/
def namesOf (s : List Char) : List String :=
  ((Text.splitChar '/' s).map String.ofList).filter fun n => n != "" && n != "."

/-- The root of a text: exactly two slashes at its start are a root of their own. -/
def rootOf : List Char → Root
  | '/' :: '/' :: '/' :: _ => .top
  | '/' :: '/' :: _ => .doubleTop
  | '/' :: _ => .top
  | _ => .here

/-- The path that a text writes. -/
def ofText (s : String) : Path := ⟨rootOf s.toList, namesOf s.toList⟩

/-- The text of a path; the current directory is a dot. -/
def text (p : Path) : String :=
  if p.root == .here && p.names.isEmpty then "." else p.root.text ++ Text.join "/" p.names

/-- Whether a path starts at a root. -/
def isAbsolute (p : Path) : Bool := p.root != .here

/-- Whether a path has double dots among its names. -/
def climbs (p : Path) : Bool := p.names.contains ".."

/-- A path with more names at its end. -/
def join (p : Path) (names : List String) : Path := { p with names := p.names ++ names }

/-- The last name of a path; empty for a root. -/
def name (p : Path) : String := p.names.getLast?.getD ""

/-- The path without its last name. -/
def parent (p : Path) : Path := { p with names := p.names.dropLast }

/-- The last name from its last dot on, unless that is at one of its ends. -/
def suffixChars (name : List Char) : List Char :=
  let tail := (name.reverse.takeWhile (· != '.')).reverse
  if tail.isEmpty || name.length ≤ tail.length + 1 then [] else '.' :: tail

/-- The end of the last name that says what kind of file it is. -/
def suffix (p : Path) : String := String.ofList (suffixChars p.name.toList)

end Path

end Typewright.Files
