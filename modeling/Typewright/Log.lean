/-
Names of loggers.
-/

namespace Typewright.Log

/-- The logger that all others belong to. -/
def root : String := "validgen"

/-- The last part of a dotted name. -/
def lastPart (name : String) : String :=
  String.ofList ((name.toList.reverse.takeWhile (· != '.')).reverse)

/-- The name of the logger for a module; every module has one directly below the root. -/
def loggerName : Option String → String
  | none => root
  | some name => if name == root then root else root ++ "." ++ lastPart name

end Typewright.Log
