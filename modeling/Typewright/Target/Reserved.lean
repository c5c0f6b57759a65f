/-
Names that generated code cannot give to its own types and members.
-/
import Typewright.Target.Language

namespace Typewright

/-- The words of a language that cannot be names. -/
def Language.keywords : Language → List String
  | .csharp =>
    ["abstract", "as", "base", "bool", "break", "byte", "case", "catch", "char", "checked", "class",
      "const", "continue", "decimal", "default", "delegate", "do", "double", "else", "enum", "event",
      "explicit", "extern", "false", "finally", "fixed", "float", "for", "foreach", "goto", "if",
      "implicit", "in", "int", "interface", "internal", "is", "lock", "long", "namespace", "new",
      "null", "object", "operator", "out", "override", "params", "private", "protected", "public",
      "readonly", "ref", "return", "sbyte", "sealed", "short", "sizeof", "stackalloc", "static",
      "string", "struct", "switch", "this", "throw", "true", "try", "typeof", "uint", "ulong",
      "unchecked", "unsafe", "ushort", "using", "virtual", "void", "volatile", "while"]
  | .python =>
    ["False", "None", "True", "and", "as", "assert", "async", "await", "break", "class", "continue",
      "def", "del", "elif", "else", "except", "finally", "for", "from", "global", "if", "import",
      "in", "is", "lambda", "nonlocal", "not", "or", "pass", "raise", "return", "try", "while",
      "with", "yield", "match", "case", "type"]

/-- The members that every generated type declares. -/
def Language.members : Language → List String
  | .csharp => ["Value", "TryCreate", "Create", "ToDTO", "ToString"]
  | .python => ["create", "try_create", "is_valid", "to_dto", "from_dict", "to_dict", "value"]

/-- The names that a generated module binds besides its types. -/
def Language.bound : Language → List String
  | .csharp => []
  | .python => ["Any", "Decimal", "TYPE_CHECKING", "ValidationError", "datetime", "re"]

/-- The names that types of a language cannot have. -/
def Language.reservedTypes (l : Language) : List String := l.keywords ++ l.bound

/-- The names that fields of a language cannot have. -/
def Language.reservedFields (l : Language) : List String := l.keywords ++ l.members

end Typewright
