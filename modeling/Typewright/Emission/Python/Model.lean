/-
Python classes of validated models.
-/
import Typewright.Emission.Python.Primitive

namespace Typewright.Emission.Python

/-- The annotation of a field. -/
def fieldHint (f : Field) : String :=
  let base := if f.isCollection then "tuple[" ++ f.dataType.name ++ ", ...]" else f.dataType.name
  if f.isNullable then base ++ " | None" else base

/-- The name under which a model knows its boundary type. -/
def dtoAlias (name : String) : String := name ++ "DTO"

/-- The line that imports the boundary type of a model. -/
def dtoImport (o : Options) (name : String) : String :=
  importLine o name true ++ " as " ++ dtoAlias name

/-- The lines that import the types of the fields of a model. -/
def modelImports (o : Options) (m : Model) : List String :=
  (others m.name (m.fields.map (·.dataType.name))).map fun n => importLine o n false

/-- The lines that build the value of a field. -/
def buildLines (f : Field) : List String :=
  let name := Text.quoted f.name
  ["            " ++ name ++ ": build_field(",
    "                failures, " ++ name ++ ", dto." ++ f.name ++ ", " ++ f.dataType.name ++ ".try_create,",
    "                nullable=" ++ Value.boolText f.isNullable ++ ", collection=" ++
      Value.boolText f.isCollection ++ ",",
    "            ),"]

/-- The lines of the class of a model. -/
def modelClass (o : Options) (m : Model) : List String :=
  let name := m.name
  let boundary := dtoAlias name
  let slots := String.join (m.fields.map fun f => Text.quoted f.name ++ ", ")
  onlyIf o.annotations ["@validated(dto=" ++ Text.quoted boundary ++ ")"] ++
  ["class " ++ name ++ ":"] ++
  classDocumentation (documentation o m.description) ++
  ["    __slots__ = (" ++ slots ++ ")",
    ""] ++
  m.fields.flatMap (fun f => fieldDocumentation o f ++ ["    " ++ f.name ++ ": " ++ fieldHint f]) ++
  [""] ++
  noInit name ++
  ["",
    "    @classmethod",
    "    def _new(cls, values: dict[str, Any]) -> " ++ name ++ ":",
    "        instance = object.__new__(cls)",
    "        for key, item in values.items():",
    "            object.__setattr__(instance, key, item)",
    "        return instance",
    "",
    "    @classmethod",
    "    def _collect(cls, dto: " ++ boundary ++ ") -> tuple[dict[str, Any], list[str]]:",
    "        \"\"\"Validate every field of ``dto``; no field is skipped after a failure.\"\"\"",
    "        if dto is None:",
    "            return \x7b\x7d, [\"no data given\"]"] ++
  (modelImports o m).map (fun line => "        " ++ line) ++
  ["",
    "        failures: list[str] = []",
    "        values = \x7b"] ++
  m.fields.flatMap buildLines ++
  ["        \x7d",
    "        return values, failures",
    "",
    "    @classmethod",
    "    def is_valid(cls, dto: " ++ boundary ++ ") -> bool:",
    "        return not cls._collect(dto)[1]",
    "",
    "    @classmethod",
    "    def try_create(cls, dto: " ++ boundary ++ ") -> " ++ name ++ " | None:",
    "        \"\"\"Return a " ++ name ++ " when every field is valid, None otherwise.\"\"\"",
    "        values, failures = cls._collect(dto)",
    "        if failures:",
    "            return None",
    "        return cls._new(values)",
    "",
    "    @classmethod",
    "    def create(cls, dto: " ++ boundary ++ ") -> " ++ name ++ ":",
    "        \"\"\"Return a " ++ name ++ " or raise ValidationError listing every invalid field.\"\"\"",
    "        values, failures = cls._collect(dto)",
    "        if failures:",
    "            raise ValidationError(" ++ Text.quoted name ++ ", dto, failures)",
    "        return cls._new(values)",
    "",
    "    def to_dto(self) -> " ++ boundary ++ ":",
    "        \"\"\"Project back to the unvalidated boundary type.\"\"\"",
    "        " ++ dtoImport o name,
    "",
    "        return " ++ boundary ++ "("] ++
  m.fields.map (fun f => "            " ++ f.name ++ "=unwrap(self." ++ f.name ++ "),") ++
  ["        )",
    ""] ++
  immutable name ++
  ["",
    "    def _astuple(self) -> tuple[Any, ...]:",
    "        return tuple(getattr(self, key) for key in self.__slots__)",
    "",
    "    def __eq__(self, other: object) -> bool:",
    "        return type(other) is type(self) and other._astuple() == self._astuple()",
    "",
    "    def __hash__(self) -> int:",
    "        return hash((" ++ Text.quoted name ++ ",) + self._astuple())",
    "",
    "    def __repr__(self) -> str:",
    "        fields = \", \".join(f\"\x7bkey\x7d=\x7bgetattr(self, key)!r\x7d\" for key in self.__slots__)",
    "        return f\"" ++ name ++ "(\x7bfields\x7d)\""]

/-- The lines of the file of a model. -/
def model (o : Options) (m : Model) : List String :=
  opening o m.name ++
  [futureLine,
    "",
    "from typing import TYPE_CHECKING, Any",
    "",
    supportLine "ValidationError, build_field, unwrap" o] ++
  o.imports ++
  ["",
    "if TYPE_CHECKING:",
    "    " ++ dtoImport o m.name] ++
  (modelImports o m).map (fun line => "    " ++ line) ++
  ["", ""] ++
  modelClass o m

end Typewright.Emission.Python
