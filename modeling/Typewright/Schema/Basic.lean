/-
Schemas: reading a mapping as the description of a type.

The functions here look at one schema only; what its references lead to is the matter of
`Typewright.Schema.Shape`.
-/
import Typewright.Fault
import Typewright.Metadata.Kind
import Typewright.Text.Case
import Typewright.Text.Edit
import Typewright.Value.Basic

namespace Typewright

namespace Text

/-! ## Markup in descriptions -/

/-- The number of characters of a tag after its opening bracket, if there is one: one or more
characters and the closing bracket. -/
def tagLength? (s : List Char) : Option Nat :=
  let inside := (s.takeWhile (· != '>')).length
  if 0 < inside && inside < s.length then some (inside + 1) else none

/-- A text without tags; `skip` characters of a tag are still to be left out. -/
def removeTagsFrom : Nat → List Char → List Char
  | _, [] => []
  | skip + 1, _ :: r => removeTagsFrom skip r
  | 0, c :: r =>
    if c == '<' then
      match tagLength? r with
      | some n => removeTagsFrom n r
      | none => c :: removeTagsFrom 0 r
    else c :: removeTagsFrom 0 r

/-- Characters that stand between words on a line. -/
def isSpaceOrTab (c : Char) : Bool := c == ' ' || c == '\t'

/-- A text without tags, with single spaces between its words. -/
def withoutMarkupChars (s : List Char) : List Char :=
  trimWhile isBlank (collapse isSpaceOrTab [' '] (removeTagsFrom 0 s))

/-- A text without tags, with single spaces between its words. -/
def withoutMarkup (s : String) : String := String.ofList (withoutMarkupChars s.toList)

end Text

/-! ## Defaults -/

/-- The least integer that a number of JSON does not hold exactly together with its neighbours. -/
def unsafeInteger : Nat := 0x20000000000000

/-- Whether an integer fits in 64 bits. -/
def fitsInt64 (n : Int) : Bool := -0x8000000000000000 ≤ n && n < 0x8000000000000000

/-- A default, or null in place of an integer that is too large for its kind. -/
def safeDefault (kind : Option Kind) : Value → Value
  | .num (.int n) =>
    if n.natAbs < unsafeInteger || kind == some .decimal || (kind == some .int64 && fitsInt64 n) then
      .int n
    else .null
  | v => v

namespace Schema

/-- A value as a schema; only mappings are. -/
def ofValue (v : Value) : Except Fault Value := if v.isMap then .ok v else .error .attribute

/-- The description of a schema without markup, if it has one that is not blank. -/
def description? (schema : Value) : Option String :=
  match schema.get "description" with
  | .text s =>
    let d := Text.withoutMarkup s
    if d == "" then none else some d
  | _ => none

/-- The format of a schema. -/
def format? (schema : Value) : Option String := (schema.get "format").text?

/-! ## Types and kinds -/

/-- The declared type: of a list of types the one besides `null`. -/
def declared (schema : Value) : Value :=
  match schema.get "type" with
  | .list types =>
    match types.filter fun t => !t.isText "null" with
    | [t] => t
    | _ => .null
  | t => t

/-- The type of a schema. One with properties and no declared type is an object. -/
def type? (schema : Value) : Option String :=
  let t := declared schema
  if t.isNull && schema.has "properties" then some "object" else t.text?

/-- Whether a schema admits null. -/
def isNullable (schema : Value) : Bool :=
  (schema.get "nullable").isTrue ||
    match schema.get "type" with
    | .list types => types.any (·.isText "null")
    | _ => false

/-- The kinds of types with a format. -/
def formatKinds : List ((String × String) × Kind) :=
  [(("string", "date-time"), .datetime), (("string", "date"), .datetime),
    (("string", "byte"), .byte), (("integer", "int32"), .int32), (("integer", "int64"), .int64),
    (("number", "float"), .float32), (("number", "double"), .float64)]

/-- The kinds of types without a format, or with one that tells nothing. -/
def typeKinds : List (String × Kind) :=
  [("string", .string), ("integer", .int32), ("number", .decimal), ("boolean", .boolean),
    ("object", .object), ("array", .object)]

/-- The kind of a type and a format, in any case. -/
def kindOf (type format : Option String) : Kind :=
  let t := Text.lower (type.getD "")
  let ofType := (typeKinds.lookup t).getD .string
  match format with
  | some f => (formatKinds.lookup (t, Text.lower f)).getD ofType
  | none => ofType

/-- The kind of a schema. -/
def kind (schema : Value) : Kind := kindOf (type? schema) (format? schema)

/-! ## Scalars -/

/-- The types of scalars. -/
def scalarTypes : List String := ["string", "integer", "number", "boolean"]

/-- The facets that constrain a scalar by being there. -/
def facets : List String :=
  ["pattern", "minLength", "maxLength", "minimum", "maximum", "format", "enum"]

/-- Whether the type of a schema is that of a scalar. -/
def isScalar (schema : Value) : Bool := (type? schema).any scalarTypes.contains

/-- Whether a schema is a scalar with a facet. -/
def isSimple (schema : Value) : Bool :=
  !(schema.get "properties").isGiven && isScalar schema &&
    (facets.any (fun f => !(schema.get f).isNull) ||
      (schema.get "exclusiveMinimum").isPlainNumber ||
      (schema.get "exclusiveMaximum").isPlainNumber)

/-- Whether a schema is a scalar without facets. -/
def isPlain (schema : Value) : Bool := isScalar schema && !isSimple schema

/-! ## References -/

/-- The reference that a schema consists of, directly or as its only part. -/
def ref? (schema : Value) : Option Value :=
  let given (v : Value) : Option Value := if v.isNull then none else some v
  match schema.get? "$ref" with
  | some ref => given ref
  | none =>
    match schema.get "allOf" with
    | .list [part] =>
      if (schema.get "properties").isGiven then none else (part.get? "$ref").bind given
    | _ => none

end Schema

end Typewright
