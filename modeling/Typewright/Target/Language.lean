/-
Languages: what code is generated for.
-/
import Typewright.Text.Case
import Typewright.Text.Edit

namespace Typewright

/-- A language that code is generated for. -/
inductive Language where
  | csharp
  | python
deriving Repr, DecidableEq

namespace Language

/-- Every language, sorted by identifier. -/
def all : List Language := [csharp, python]

/-- The identifier of a language. -/
def id : Language → String
  | csharp => "csharp"
  | python => "python"

/-- The name of a language as people write it. -/
def displayName : Language → String
  | csharp => "C#"
  | python => "Python"

/-- The extension of a language's files. -/
def extension : Language → String
  | csharp => "cs"
  | python => "py"

/-- Other identifiers of a language. -/
def aliases : Language → List String
  | csharp => ["cs", "c#"]
  | python => ["py"]

/-- What starts a comment line. -/
def commentMark : Language → String
  | csharp => "//"
  | python => "#"

/-- The identifiers of all languages. -/
def available : List String := all.map id

/-- The language of an identifier or alias in any case, with white space around it. -/
def find? (name : String) : Option Language :=
  let key := Text.lower (Text.strip name)
  all.find? fun l => l.id == key || l.aliases.contains key

end Language

end Typewright
