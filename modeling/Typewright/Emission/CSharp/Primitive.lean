/-
C# types that wrap one constrained value.
-/
import Typewright.Emission.CSharp.Basic
import Typewright.Name.Unique

namespace Typewright.Emission.CSharp

/-! ## Literals -/

/-- The suffix of a number of a kind. -/
def numberSuffix : Kind → String
  | .int64 => "L"
  | .float32 => "f"
  | .decimal => "m"
  | _ => ""

/-- The integer part of a number; infinities and what is no number have none. -/
def integerPart : Number → Except Fault Int
  | .int n => .ok n
  | .float x =>
    match x.truncate? with
    | some n => .ok n
    | none => .error (if x == .nan then .value else .overflow)
  | .decimal d =>
    match d.truncate? with
    | some n => .ok n
    | none => .error (if d.isNaN then .value else .overflow)

/-- A number as a literal for a type. -/
def numberLiteral (n : Number) (t : DataType) : Except EmissionFailure String :=
  if t.kind.isInteger then
    match integerPart n with
    | .error f => .error (.fault f)
    | .ok i =>
      if n.same (.int i) then (numeral (.int i)).map (· ++ numberSuffix t.kind)
      else fail (.notInteger (.num n)) t.name
  else (numeral n).map (· ++ numberSuffix t.kind)

/-- A value as a literal for a type. -/
def valueLiteral (v : Value) (t : DataType) : Except EmissionFailure String :=
  match v with
  | .bool b => .ok (if b then "true" else "false")
  | .text s => .ok (literal s)
  | .num n => numberLiteral n t
  | v => if v.hasText then fail (.inexpressible v) t.name else .error (.fault .value)

/-! ## Constraints -/

/-- A member that holds what a constraint compares with. -/
structure Member where
  marker : String
  declaration : String

/-- What a constraint becomes: a member and a condition on the raw value, or nothing. -/
structure Check where
  member : Member
  condition : String

/-- The base name of the member of a constraint. -/
def memberBase : Constraint → String
  | .pattern _ => "Pattern"
  | .length .lower _ => "MinLength"
  | .length .upper _ => "MaxLength"
  | .bound side .. => side.boundName
  | .required => "Required"
  | .allowed _ => "AllowedValues"

/-- What a constraint becomes under the name of its member. -/
def check (t : DataType) (name : String) (c : Constraint) : Except EmissionFailure (Option Check) := do
  let type ← typeOf t
  let made (declaration condition : String) : Option Check :=
    some ⟨⟨memberBase c, declaration⟩, condition⟩
  let inapplicable : Except EmissionFailure (Option Check) := fail (.inapplicable c t.kind) t.name
  match c with
  | .pattern regex =>
    if t.kind.isTextual then
      return made ("private static readonly Regex " ++ name ++ " = new(" ++ verbatim regex ++
        ", RegexOptions.Compiled);") (name ++ ".IsMatch(raw)")
    else inapplicable
  | .length side n =>
    if t.kind.isTextual then
      let limit ← numeral (.int n)
      return made ("private const int " ++ name ++ " = " ++ limit ++ ";")
        ("raw.Length " ++ comparison side .inclusive ++ " " ++ name)
    else inapplicable
  | .bound side value edge =>
    if t.kind.isNumeric then
      let bound ← numberLiteral value t
      return made ("private const " ++ type ++ " " ++ name ++ " = " ++ bound ++ ";")
        ("raw " ++ comparison side edge ++ " " ++ name)
    else inapplicable
  | .allowed values =>
    let members ← values.mapM fun v => valueLiteral v t
    return made ("private static readonly HashSet<" ++ type ++ "> " ++ name ++ " = new() \x7b " ++
      Text.join ", " members ++ " \x7d;") (name ++ ".Contains(raw)")
  | .required => return none

/-- What the constraints of a type become; members have names that nothing else has. -/
def checks (t : DataType) : List String → List Constraint → Except EmissionFailure (List Check)
  | _, [] => .ok []
  | taken, c :: r => do
    let name := Name.fresh taken (memberBase c)
    match ← check t name c with
    | none => checks t taken r
    | some made => return made :: (← checks t (name :: taken) r)

/-! ## The type -/

/-- The namespaces that a wrapping type uses. -/
def primitiveUsings (t : DataType) : List String :=
  [supportNamespace] ++
    (if (t.constraint? "Pattern").isSome then ["System.Text.RegularExpressions"] else []) ++
    (if (t.constraint? "AllowedValues").isSome then ["System.Collections.Generic"] else []) ++
    (if t.kind == .datetime then ["System"] else [])

/-- The lines of a member, behind an indentation. -/
def memberLines (pad : String) (o : Options) (m : Member) : List String :=
  onlyIf o.annotations [pad ++ "    [" ++ m.marker ++ "]"] ++ [pad ++ "    " ++ m.declaration, ""]

/-- The lines of a wrapping type, behind an indentation. -/
def primitiveLines (pad : String) (o : Options) (t : DataType) (type : String) (cs : List Check) :
    List String :=
  let name := t.name
  let conditions := String.join (cs.map fun c => " && " ++ c.condition)
  let shown := if type == "string" then "value" else "value.ToString()"
  summary pad (documentation o t.description) ++
  onlyIf o.annotations [pad ++ "[Validated]"] ++
  [pad ++ "public readonly record struct " ++ name, pad ++ "\x7b"] ++
  cs.flatMap (fun c => memberLines pad o c.member) ++
  [pad ++ "    private readonly " ++ type ++ " value;",
    "",
    pad ++ "    public " ++ type ++ " Value => value;",
    "",
    pad ++ "    private " ++ name ++ "(" ++ type ++ " value)",
    pad ++ "    \x7b",
    pad ++ "        this.value = value;",
    pad ++ "    \x7d",
    "",
    pad ++ "    public static bool TryCreate(" ++ type ++ "? input, out " ++ name ++ " validated)",
    pad ++ "    \x7b",
    pad ++ "        if (input is " ++ type ++ " raw" ++ conditions ++ ")",
    pad ++ "        \x7b",
    pad ++ "            validated = new " ++ name ++ "(raw);",
    pad ++ "            return true;",
    pad ++ "        \x7d",
    "",
    pad ++ "        validated = default;",
    pad ++ "        return false;",
    pad ++ "    \x7d",
    ""] ++
  onlyIf o.annotations [pad ++ "    [Validation]"] ++
  [pad ++ "    public static " ++ name ++ " Create(" ++ type ++ "? input)",
    pad ++ "    \x7b",
    pad ++ "        if (TryCreate(input, out var validated))",
    pad ++ "        \x7b",
    pad ++ "            return validated;",
    pad ++ "        \x7d",
    "",
    pad ++ "        throw new ValidationException<" ++ type ++ "?, " ++ name ++ ">(input);",
    pad ++ "    \x7d",
    "",
    pad ++ "    public override string ToString() => " ++ shown ++ ";",
    pad ++ "\x7d"]

/-- The lines of a wrapping type, in the namespace of the options or, if they have none, outside of
any. -/
def placedLines (o : Options) (t : DataType) (type : String) (cs : List Check) : List String :=
  match namespaceGiven o with
  | none => primitiveLines "" o t type cs
  | some n => ["namespace " ++ n, "\x7b"] ++ primitiveLines "    " o t type cs ++ ["\x7d"]

/-- The lines of the file of a wrapping type. -/
def primitive (o : Options) (t : DataType) : Except EmissionFailure (List String) := do
  let type ← typeOf t
  let cs ← checks t [t.name, "Value", "TryCreate", "Create"] t.constraints
  return opening o t.name (usings o (primitiveUsings t)) ++ placedLines o t type cs

end Typewright.Emission.CSharp
