/-
What the program prints.

Characters that would move the cursor are left out of what is printed, and tabs become spaces up to
the next of the columns that are eight apart.
-/
import Typewright.CommandLine.Table

namespace Typewright.CommandLine

/-- Whether a character is left out of what is printed. -/
def isControl (c : Char) : Bool := [7, 8, 11, 12, 13].contains c.toNat

/-- A text with its tabs replaced by spaces; `column` is where its first character stands. -/
def expandTabs : Nat → List Char → List Char
  | _, [] => []
  | column, c :: r =>
    if c == '\t' then
      let n := 8 - column % 8
      List.replicate n ' ' ++ expandTabs (column + n) r
    else if c == '\n' then c :: expandTabs 0 r
    else c :: expandTabs (column + 1) r

/-- A text as it is printed. -/
def printable (s : String) : String :=
  String.ofList (expandTabs 0 (s.toList.filter fun c => !isControl c))

/-- Something that the program prints: a message, a message with the date before it, or a table, as
output or as an error. -/
inductive Said where
  | output (text : String)
  | stampedOutput (text : String)
  | table (t : Table)
  | error (text : String)
  | stampedError (text : String)
deriving Repr, DecidableEq

namespace Said

/-- What is said, as output, where a stamp comes before some messages. -/
def outputText? (stamp : String) : Said → Option String
  | .output s => some (printable s)
  | .stampedOutput s => some (printable (stamp ++ s))
  | .table t => some (Text.join "\n" t.lines)
  | _ => none

/-- What is said, as an error, where a stamp comes before some messages. -/
def errorText? (stamp : String) : Said → Option String
  | .error s => some (printable s)
  | .stampedError s => some (printable (stamp ++ s))
  | _ => none

/-- A table that is shown. -/
def table? : Said → Option Table
  | .table t => some t
  | _ => none

end Said

/-- How the program ends: what it prints, its exit code, and the failure that stopped it, if one did
before it could be told. -/
structure Ending where
  said : List Said := []
  code : Nat := 0
  stopped : Option Failure := none

end Typewright.CommandLine
