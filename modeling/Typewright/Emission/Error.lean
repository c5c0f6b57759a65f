/-
Why code cannot be generated.
-/
import Typewright.Fault
import Typewright.Metadata.Basic
import Typewright.Target.Language

namespace Typewright

/-- What keeps code from being generated. -/
inductive EmissionProblem where
  | reference
  | notPrimitive (kind : Kind)
  | notInteger (bound : Value)
  | inexpressible (value : Value)
  | inapplicable (constraint : Constraint) (kind : Kind)
  | samePath (first second path : String)
  | outside (path : String)

/-- A problem in words. -/
def EmissionProblem.message : EmissionProblem → String
  | .reference => "Model references cannot be emitted as primitives"
  | .notPrimitive kind => "Kind '" ++ kind.name ++ "' cannot be a validated primitive"
  | .notInteger bound => "Bound " ++ bound.plain ++ " is not an integer"
  | .inexpressible v => "Cannot express " ++ v.display ++ " as a C# literal"
  | .inapplicable c kind => "Cannot translate " ++ c.name ++ " for a " ++ kind.name ++ " value"
  | .samePath first second path =>
    "Artifacts '" ++ first ++ "' and '" ++ second ++ "' would both be written to " ++ path
  | .outside path => "Refusing to write outside the output directory: " ++ path

/-- A problem with the type it arises at and the language. -/
structure EmissionError where
  problem : EmissionProblem
  typeName : String
  language : Language

/-- A message with what it is about behind it. -/
def withContext (message : String) (context : List (String × String)) : String :=
  match context.filter fun c => c.2 != "" with
  | [] => message
  | parts => message ++ " [" ++ Text.join ", " (parts.map fun (k, v) => k ++ "=" ++ v) ++ "]"

/-- An error in words. -/
def EmissionError.message (e : EmissionError) : String :=
  withContext e.problem.message [("type", e.typeName), ("target", e.language.id)]

/-- Why there is no code: a problem, or a value of a shape that cannot be written. -/
inductive EmissionFailure where
  | problem (e : EmissionError)
  | fault (f : Fault)

/-- A language that there is no target for, as it was asked for. -/
structure UnknownLanguage where
  language : Value

/-- An unknown language in words. -/
def UnknownLanguage.message (e : UnknownLanguage) : String :=
  let name := e.language.plain
  withContext
    ("Language '" ++ name ++ "' is not supported. Available: " ++
      Text.join ", " Language.available)
    [("target", if e.language.isGiven then name else "")]

/-- Why no language is found: there is none of the name, or the value is no name. -/
inductive LanguageFailure where
  | unknown (e : UnknownLanguage)
  | fault (f : Fault)

/-- The language that a value names. What is not given names none. -/
def Language.get : Value → Except LanguageFailure Language
  | .text name =>
    match Language.find? name with
    | some l => .ok l
    | none => .error (.unknown ⟨.text name⟩)
  | v =>
    match v, v.isGiven with
    | .bytes _, _ => .error (.unknown ⟨v⟩)
    | _, false => .error (.unknown ⟨v⟩)
    | _, true => .error (.fault .attribute)

end Typewright
