/-
Python classes that wrap one constrained value.
-/
import Typewright.Emission.Python.Basic

namespace Typewright.Emission.Python

/-! ## Checks -/

/-- A condition on a value with the reason that is given where it fails. -/
structure Check where
  condition : String
  reason : String

/-- The check of the kind of a value. -/
def kindCheck (k : Kind) : Check :=
  let notBool := "not isinstance(value, bool)"
  match k with
  | .string => ⟨"isinstance(value, str)", "must be a string"⟩
  | .byte => ⟨"isinstance(value, str)", "must be a base64 string"⟩
  | .int32 =>
    ⟨"isinstance(value, int) and " ++ notBool ++ " and -2147483648 <= value <= 2147483647",
      "must be a 32-bit integer"⟩
  | .int64 =>
    ⟨"isinstance(value, int) and " ++ notBool ++
        " and -9223372036854775808 <= value <= 9223372036854775807",
      "must be a 64-bit integer"⟩
  | .float32 => ⟨"isinstance(value, (int, float)) and " ++ notBool, "must be a number"⟩
  | .float64 => ⟨"isinstance(value, (int, float)) and " ++ notBool, "must be a number"⟩
  | .decimal => ⟨"isinstance(value, (int, float, Decimal)) and " ++ notBool, "must be a number"⟩
  | .boolean => ⟨"isinstance(value, bool)", "must be a boolean"⟩
  | .datetime => ⟨"isinstance(value, datetime)", "must be a datetime"⟩
  | .object => ⟨"", ""⟩

/-- What a length from a side is called. -/
def lengthWords : Side → String
  | .lower => "at least"
  | .upper => "at most"

/-- The constant of a pattern; the first one needs no number. -/
def constantName (before : Nat) : String :=
  if before == 0 then "_PATTERN" else "_PATTERN_" ++ Nat.repr (before + 1)

/-- The check of a constraint, with the constant that it needs; `before` counts the constants of
the checks before it. -/
def check (t : DataType) (before : Nat) (c : Constraint) :
    Except EmissionFailure (Check × Option (String × String)) :=
  let inapplicable : Except EmissionFailure (Check × Option (String × String)) :=
    fail (.inapplicable c t.kind) t.name
  match c with
  | .pattern regex =>
    if t.kind.isTextual then
      let name := constantName before
      .ok (⟨name ++ ".search(value) is not None", "must match pattern " ++ regex⟩,
        some (name, "re.compile(" ++ Text.quoted regex ++ ")"))
    else inapplicable
  | .length side n =>
    if t.kind.isTextual then
      (numeral (.int n)).map fun limit =>
        (⟨"len(value) " ++ comparison side .inclusive ++ " " ++ limit,
          "must be " ++ lengthWords side ++ " " ++ limit ++ " characters"⟩, none)
    else inapplicable
  | .bound side value edge =>
    if t.kind.isNumeric then
      (numeral value).map fun limit =>
        (⟨"value " ++ comparison side edge ++ " " ++ valueLiteral (some t.kind) (.num value),
          "must be " ++ comparison side edge ++ " " ++ limit⟩, none)
    else inapplicable
  | .allowed values =>
    if t.kind == .object then inapplicable
    else if !Value.haveTexts values then .error (.fault .value)
    else
      let members := Text.join ", " (values.map (valueLiteral (some t.kind)))
      .ok (⟨"value in (" ++ members ++ (if values.length == 1 then "," else "") ++ ")",
        "must be one of " ++ Text.join ", " (values.map Value.plain)⟩, none)
  | .required => .ok (⟨"value is not None", "is required"⟩, none)

/-- The checks of constraints and the constants that they need. -/
def checks (t : DataType) : Nat → List Constraint →
    Except EmissionFailure (List Check × List (String × String))
  | _, [] => .ok ([], [])
  | before, c :: r => do
    let (made, constant) ← check t before c
    let (rest, constants) ← checks t (before + constant.toList.length) r
    return (made :: rest, constant.toList ++ constants)

/-! ## The class -/

/-- The line that imports the support of a class. -/
def supportLine (names : String) (o : Options) : String :=
  "from validgen.runtime import " ++ names ++ (if o.annotations then ", validated" else "")

/-- What creating an instance directly is refused with. -/
def noInit (name : String) : List String :=
  ["    def __init__(self, *args: Any, **kwargs: Any) -> None:",
    "        raise TypeError(\"" ++ name ++ " instances are created with " ++ name ++
      ".create() or " ++ name ++ ".try_create()\")"]

/-- The methods that refuse changes. -/
def immutable (name : String) : List String :=
  ["    def __setattr__(self, name: str, value: Any) -> None:",
    "        raise AttributeError(\"" ++ name ++ " is immutable\")",
    "",
    "    def __delattr__(self, name: str) -> None:",
    "        raise AttributeError(\"" ++ name ++ " is immutable\")"]

/-- The import lines of a wrapping class. -/
def primitiveImports (o : Options) (t : DataType) (cs : List Check)
    (constants : List (String × String)) : List String :=
  [futureLine, ""] ++
  onlyIf (!constants.isEmpty) ["import re"] ++
  onlyIf (t.kind == .datetime) ["from datetime import datetime"] ++
  onlyIf (t.kind == .decimal || cs.any fun c => Text.contains "Decimal(" c.condition)
    ["from decimal import Decimal"] ++
  ["from typing import Any",
    "",
    supportLine "ValidationError" o] ++
  o.imports

/-- The lines of a wrapping class. -/
def primitiveClass (o : Options) (t : DataType) (type : String) (cs : List Check) : List String :=
  let name := t.name
  let kind := kindCheck t.kind
  onlyIf o.annotations ["@validated"] ++
  ["class " ++ name ++ ":"] ++
  classDocumentation (documentation o t.description) ++
  ["    __slots__ = (\"_value\",)",
    ""] ++
  noInit name ++
  ["",
    "    @classmethod",
    "    def _new(cls, value: " ++ type ++ ") -> " ++ name ++ ":",
    "        instance = object.__new__(cls)",
    "        object.__setattr__(instance, \"_value\", value)",
    "        return instance",
    "",
    "    @property",
    "    def value(self) -> " ++ type ++ ":",
    "        return self._value",
    "",
    "    @staticmethod",
    "    def _failures(value: Any) -> list[str]:",
    "        if not (" ++ kind.condition ++ "):",
    "            return [" ++ Text.quoted kind.reason ++ "]",
    "        failures: list[str] = []"] ++
  cs.flatMap (fun c =>
    ["        if not (" ++ c.condition ++ "):",
      "            failures.append(" ++ Text.quoted c.reason ++ ")"]) ++
  ["        return failures",
    "",
    "    @classmethod",
    "    def is_valid(cls, value: Any) -> bool:",
    "        return not cls._failures(value)",
    "",
    "    @classmethod",
    "    def try_create(cls, value: Any) -> " ++ name ++ " | None:",
    "        \"\"\"Return a " ++ name ++ " for a valid value, None otherwise.\"\"\"",
    "        if cls._failures(value):",
    "            return None",
    "        return cls._new(value)",
    "",
    "    @classmethod",
    "    def create(cls, value: Any) -> " ++ name ++ ":",
    "        \"\"\"Return a " ++ name ++ " or raise ValidationError.\"\"\"",
    "        failures = cls._failures(value)",
    "        if failures:",
    "            raise ValidationError(" ++ Text.quoted name ++ ", value, failures)",
    "        return cls._new(value)",
    ""] ++
  immutable name ++
  ["",
    "    def __eq__(self, other: object) -> bool:",
    "        return type(other) is type(self) and other._value == self._value",
    "",
    "    def __hash__(self) -> int:",
    "        return hash((" ++ Text.quoted name ++ ", self._value))",
    "",
    "    def __repr__(self) -> str:",
    "        return f\"" ++ name ++ "(\x7bself._value!r\x7d)\"",
    "",
    "    def __str__(self) -> str:",
    "        return str(self._value)"]

/-- The lines of the file of a wrapping class. -/
def primitive (o : Options) (t : DataType) : Except EmissionFailure (List String) := do
  let type ← typeOf t
  let (cs, constants) ← checks t 0 t.constraints
  return opening o t.name ++
    primitiveImports o t cs constants ++
    (if constants.isEmpty then []
      else "" :: constants.map fun c => c.1 ++ " = " ++ c.2) ++
    ["", ""] ++
    primitiveClass o t type cs

end Typewright.Emission.Python
