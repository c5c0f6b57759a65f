/-
Marks: places in a YAML text, and how they are shown.
-/
import Typewright.Number.Digits

namespace Typewright.Yaml

/-- Characters that end a line. -/
def isBreak (c : Char) : Bool :=
  c == '\r' || c == '\n' || c == '\x85' || c == '\u2028' || c == '\u2029'

/-- A place in a text; lines and columns are counted from zero. -/
structure Mark where
  index : Nat
  line : Nat
  column : Nat
deriving Repr, DecidableEq

namespace Mark

/-- How many characters are shown on each side of a place. -/
def reach : Nat := 36

/-- The end of the part of a line before a place that is shown, and whether it is cut; the line is
in reverse. -/
def head (before : List Char) : Bool × List Char :=
  let line := before.takeWhile fun c => !isBreak c
  if reach < line.length then (true, (line.take (reach - 4)).reverse) else (false, line.reverse)

/-- The start of the part of a line from a place on that is shown, and whether it is cut. -/
def tail (after : List Char) : Bool × List Char :=
  let line := after.takeWhile fun c => !isBreak c
  if reach < line.length then (true, line.take (reach - 4)) else (false, line)

/-- What stands for the part of a line that is cut. -/
def cut (isCut : Bool) : List Char := if isCut then " ... ".toList else []

/-- The line of a place, with a caret below the place. -/
def snippet (text : List Char) (m : Mark) : String :=
  let (headCut, shownHead) := head ((text.take m.index).reverse)
  let (tailCut, shownTail) := tail (text.drop m.index)
  let start := cut headCut ++ shownHead
  String.ofList (List.replicate 4 ' ' ++ start ++ shownTail ++ cut tailCut ++ '\n' ::
    (List.replicate (4 + start.length) ' ' ++ ['^']))

/-- A place in words, with its line. -/
def text (whole : List Char) (m : Mark) : String :=
  "  in \"<unicode string>\", line " ++ Nat.repr (m.line + 1) ++ ", column " ++
    Nat.repr (m.column + 1) ++ ":\n" ++ m.snippet whole

end Mark

end Typewright.Yaml
