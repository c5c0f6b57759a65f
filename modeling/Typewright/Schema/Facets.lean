/-
Facets: the constraints that a scalar schema puts on its values.

Facets that do not apply to the kind of the schema, and patterns that are no regular expressions,
are left out with a warning. Facets of a wrong shape stop the work on the schema, and so does a
warning or a flaw that cannot be told, since a number in it has no text.
-/
import Typewright.Regex.Reader
import Typewright.Schema.Basic
import Typewright.Schema.Failure

namespace Typewright

/-- Work that may stop and that notes warnings, which are kept when it stops. -/
abbrev Noting := ExceptT Failure (StateM (List Warning))

/-- Notes a warning. -/
def note (w : Warning) : Noting Unit := modify fun ws => ws ++ [w]

namespace Schema

/-- Notes a warning, if it can be told. -/
def tell (w : Warning) : Noting Unit := if w.hasText then note w else throw (.fault .value)

/-- Stops at a flaw. -/
def unlessFlawed {α : Type} : Except Flaw α → Noting α
  | .ok a => return a
  | .error f => throw (if f.hasText then .flaw f else .fault .value)

/-! ## Patterns -/

/-- The characters of a byte string, one for each byte. -/
def byteChars (bs : List UInt8) : List Char := bs.map fun b => Char.ofNat b.toNat

/-- What keeps a value from being a pattern: a reason to drop it, or a fault. -/
def patternRefusal? (v : Value) : Option (Except Fault String) :=
  let refused (subject : Regex.Subject) (s : List Char) : Option (Except Fault String) :=
    match Regex.read subject s with
    | .ok _ => none
    | .error (.malformed cause offset) =>
      some (.ok (String.ofList (subject.show (Regex.messageAt s cause offset).toList)))
    | .error (.fault f) => some (.error f)
  match v with
  | .text s => refused .texts s.toList
  | .bytes bs => refused .bytes (byteChars bs)
  | v =>
    match v.keyFault? with
    | some part => some (.ok ("unhashable type: '" ++ part.kindName ++ "'"))
    | none => some (.ok "first argument must be string or compiled pattern")

/-- The constraint that the pattern of a schema gives. -/
def patternConstraint (name : String) (schema : Value) (kind : Kind) : Noting (List Constraint) :=
  let pattern := schema.get "pattern"
  if pattern.isNull then return []
  else if !kind.isTextual then do
    note (.facetIgnored name "pattern" kind)
    return []
  else
    match patternRefusal? pattern with
    | some (.ok reason) => do
      tell (.patternDropped name pattern reason)
      return []
    | some (.error f) => throw (.fault f)
    | none => do return [← unlessFlawed (Constraint.ofPattern pattern)]

/-! ## Lengths and bounds -/

/-- The facet that limits the length from a side. -/
def lengthFacet : Side → String
  | .lower => "minLength"
  | .upper => "maxLength"

/-- The constraint that a length facet gives. -/
def lengthConstraint (name : String) (schema : Value) (kind : Kind) (side : Side) :
    Noting (List Constraint) :=
  let value := schema.get (lengthFacet side)
  if value.isNull then return []
  else if !kind.isTextual then do
    note (.facetIgnored name (lengthFacet side) kind)
    return []
  else do return [← unlessFlawed (Constraint.ofLength side value)]

/-- The facet that bounds the value from a side. -/
def boundFacet : Side → String
  | .lower => "minimum"
  | .upper => "maximum"

/-- The facet that excludes a bound: the one beside it if it is true, or one of its own if it is a
number. -/
def exclusiveFacet : Side → String
  | .lower => "exclusiveMinimum"
  | .upper => "exclusiveMaximum"

/-- The constraints that the bounds from a side give. -/
def boundConstraints (name : String) (schema : Value) (kind : Kind) (side : Side) :
    Noting (List Constraint) :=
  let value := schema.get (boundFacet side)
  let exclusive := schema.get (exclusiveFacet side)
  if value.isNull && !exclusive.isPlainNumber then return []
  else if !kind.isNumeric then do
    note (.facetIgnored name (if value.isNull then exclusiveFacet side else boundFacet side) kind)
    return []
  else do
    let first ← if value.isNull then pure [] else do
      let edge : Edge := if exclusive.isTrue then .exclusive else .inclusive
      pure [← unlessFlawed (Constraint.ofBound side edge value)]
    let second ← if exclusive.isPlainNumber then do
      pure [← unlessFlawed (Constraint.ofBound side .exclusive exclusive)]
      else pure []
    return first ++ second

/-! ## Enumerations -/

/-- The constraint that an enumeration gives; null is no member of it. -/
def enumConstraint (name : String) (schema : Value) : Noting (List Constraint) :=
  match schema.get "enum" with
  | .null => return []
  | .list values =>
    match values.filter fun v => !v.isNull with
    | [] => return []
    | members => return [.allowed members]
  | _ => do
    note (.enumShape name)
    return []

/-! ## Constraints that exclude each other -/

/-- The limits on the length from a side. -/
def lengths (side : Side) (cs : List Constraint) : List Nat :=
  cs.filterMap fun
    | .length s n => if s == side then some n else none
    | _ => none

/-- The bounds from a side, each with its edge. -/
def bounds (side : Side) (cs : List Constraint) : List (Number × Edge) :=
  cs.filterMap fun
    | .bound s n edge => if s == side then some (n, edge) else none
    | _ => none

/-- The limits on the length that no length satisfies, if they are such. -/
def emptyLengths? (cs : List Constraint) : Option (Nat × Nat) :=
  match (lengths .lower cs).max?, (lengths .upper cs).min? with
  | some low, some high => if high < low then some (low, high) else none
  | _, _ => none

/-- Whether no number lies between two bounds. Numbers without an order have no answer. -/
def excludes (low high : Number × Edge) : Except Fault Bool :=
  if low.1.unordered || high.1.unordered then .error .decimal
  else .ok (high.1.lt low.1 ||
    (low.1.same high.1 && (low.2 == .exclusive || high.2 == .exclusive)))

/-- The first two bounds that exclude each other. -/
def emptyBounds? : List ((Number × Edge) × (Number × Edge)) → Except Fault (Option (Number × Number))
  | [] => .ok none
  | (low, high) :: r => do
    if ← excludes low high then return some (low.1, high.1) else emptyBounds? r

/-- Notes constraints that no value satisfies. -/
def checkSatisfiable (name : String) (cs : List Constraint) : Noting Unit := do
  match emptyLengths? cs with
  | some (low, high) => tell (.noLength name low high)
  | none => pure ()
  let pairs := (bounds .lower cs).flatMap fun low => (bounds .upper cs).map fun high => (low, high)
  match emptyBounds? pairs with
  | .ok (some (low, high)) => tell (.noValue name low high)
  | .ok none => pure ()
  | .error f => throw (.fault f)

/-- The constraints of a scalar schema, in a fixed order. -/
def constraints (name : String) (schema : Value) (kind : Kind) : Noting (List Constraint) := do
  let pattern ← patternConstraint name schema kind
  let minLength ← lengthConstraint name schema kind .lower
  let maxLength ← lengthConstraint name schema kind .upper
  let lower ← boundConstraints name schema kind .lower
  let upper ← boundConstraints name schema kind .upper
  let allowed ← enumConstraint name schema
  let cs := pattern ++ minLength ++ maxLength ++ lower ++ upper ++ allowed
  checkSatisfiable name cs
  return cs

/-- The default of a schema, if it is safe for a kind. -/
def defaultOf (schema : Value) (kind : Kind) : Value :=
  safeDefault (some kind) (schema.get "default")

/-- The data type that a scalar schema describes. -/
def scalarType (name : String) (schema : Value) (kind : Kind) : Noting DataType := do
  let cs ← constraints name schema kind
  if name == "" then throw (.flaw .unnamedType)
  else return {
    name := name
    kind := kind
    constraints := cs
    description := description? schema
    format := format? schema
    default := defaultOf schema kind }

/-- The data type that refers to the model of an object schema. -/
def modelReference (name : String) (schema : Value) : Except Failure DataType :=
  if name == "" then .error (.flaw .unnamedType)
  else .ok { name := name, kind := .object, description := description? schema }

end Schema

end Typewright
