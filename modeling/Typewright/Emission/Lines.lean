/-
Generated files as lines.
-/
import Typewright.Options.Basic
import Typewright.Target.Language

namespace Typewright

/-- A generated file. -/
structure Artifact where
  name : String
  path : String
  content : String
deriving Repr, DecidableEq

namespace Emission

/-- The text of some lines, each with its line feed. -/
def render (lines : List String) : String := String.join (lines.map (· ++ "\n"))

/-- A line with an indentation before it, unless it is empty. -/
def indentLine (indent line : String) : String := if line == "" then "" else indent ++ line

/-- Lines with an indentation before them. -/
def indented (indent : String) (lines : List String) : List String := lines.map (indentLine indent)

/-- Lines that are left out where a condition does not hold. -/
def onlyIf (condition : Bool) (lines : List String) : List String := if condition then lines else []

/-- Lines with an empty one after them, unless there are none. -/
def spaced (lines : List String) : List String := if lines.isEmpty then [] else lines ++ [""]

/-- Blocks of lines with an empty line between each two of them. -/
def separated : List (List String) → List String
  | [] => []
  | [b] => b
  | b :: c :: r => b ++ "" :: separated (c :: r)

/-- The lines of the header of a file, as comments. -/
def header (l : Language) (o : Options) (name : String) : List String :=
  match o.fileHeader with
  | none => []
  | some h =>
    let filled := Text.replace "\x7blanguage\x7d" l.id (Text.replace "\x7bname\x7d" name h)
    let trimmed := Text.trimWhile (· == '\n') filled.toList
    ((Text.lineChars trimmed).map String.ofList).map fun line =>
      Text.stripRight (l.commentMark ++ " " ++ line)

/-- The lines of a description; none where documentation is left out. -/
def documentation (o : Options) (description : Option String) : List String :=
  if o.documentation then (Text.lines (Text.strip (description.getD ""))).map Text.stripRight
  else []

/-- The namespace of an option, unless it is empty. -/
def namespaceGiven (o : Options) : Option String := o.namespaceName.filter (· != "")

end Emission

end Typewright
