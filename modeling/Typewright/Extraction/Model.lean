/-
Models from object schemas.

Each property becomes a field. Its type is found through a reference, or it is an inline type that
gets a name of its own: the title of the schema, or the names of the model and the property.
-/
import Typewright.Extraction.Basic

namespace Typewright.Extraction

/-! ## Types of properties -/

/-- The data type that a reference leads to, if it leads to a type. -/
def referenceType (scope : Scope) (ref : Value) : Extracting (Option DataType) := do
  let name ← match Document.targetName ref with
    | .ok name => pure name
    | .error f => throw (.fault f)
  let target ← resolve scope ref
  if Schema.isSimple target then return some (← namedType name target)
  else if ← ofExcept (Schema.isComplex scope.document target) then
    if scope.unavailable.contains name then throw (.problem (.unavailable name))
    else return some (← ofExcept (Schema.modelReference name target))
  else if Schema.isPlain target then
    let t ← namedType name target
    if (← get).isEmitted t.name then return some t
    else
      modify fun s => { s with pendingTypes := s.pendingTypes ++ [t] }
      return some t
  else return none

/-- How an inline model is built from its name and schema. -/
abbrev Builder := String → Value → Extracting Model

/-- The data type of a schema that is a property or an item, if it has one. -/
def typeOf (build : Builder) (scope : Scope) (hint : String) (schema : Value) :
    Extracting (Option DataType) := do
  match Schema.ref? schema with
  | some ref => referenceType scope ref
  | none =>
    if Schema.isScalar schema then
      let name ← inlineName hint
      let t ← noting (Schema.scalarType name schema (Schema.kind schema))
      modify fun s => { s with pendingTypes := s.pendingTypes ++ [t] }
      return some t
    else if ← ofExcept (Schema.isComplex scope.document schema) then
      let name ← inlineName hint
      let model ← build name schema
      modify fun s => { s with pendingModels := s.pendingModels ++ [model] }
      return some (← ofExcept (Schema.modelReference name schema))
    else return none

/-- The title of a schema, or a name made for it. -/
def hintFor (schema : Value) (made : String) : String :=
  let title := schema.get "title"
  if title.isGiven then title.plain else made

/-- The array schema that a property is or refers to, if any. -/
def arrayOf (scope : Scope) (schema : Value) : Extracting (Option Value) := do
  let effective ← match Schema.ref? schema with
    | none => pure schema
    | some ref => do
      let target ← resolve scope ref
      pure (if Schema.type? target == some "array" then target else schema)
  return if Schema.type? effective == some "array" then some effective else none

/-- The data type of a property, if it has one, and whether the property is a collection of it. -/
def propertyType (build : Builder) (scope : Scope) (owner property : String) (schema : Value) :
    Extracting (Option DataType × Bool) := do
  let made := owner ++ Name.pascal property
  match ← arrayOf scope schema with
  | some array =>
    let items := array.get "items"
    if items.isMap && items.isGiven then
      return (← typeOf build scope (hintFor items (made ++ "Item")) items, true)
    else throw (.problem (.noItems owner property))
  | none => return (← typeOf build scope (hintFor schema made) schema, false)

/-! ## Fields and models -/

/-- The field of a property. -/
def fieldOf (name : String) (isRequired : Bool) (schema : Value) (type : DataType)
    (isCollection : Bool) : Field :=
  { name := name
    dataType := type
    isRequired := isRequired
    isNullable := Schema.isNullable schema || !isRequired
    isReadOnly := (schema.get "readOnly").isGiven
    isCollection := isCollection
    element := if isCollection then some type else none
    description := (Schema.description? schema).or type.description
    wireName := name
    default := Schema.defaultOf schema type.kind }

/-- The field of a property; a property without one is noted. -/
def property (build : Builder) (scope : Scope) (model : String) (required : List String)
    (name : String) (schema : Value) : Extracting (Option Field) := do
  if !schema.isMap then
    warn (.propertyShape model name)
    return none
  else
    let found ← tryCatch (some <$> propertyType build scope model name schema) fun
      | .problem (.unavailable target) => do
        warn (.propertyUnavailable model name target)
        return none
      | why => throw why
    match found with
    | none => return none
    | some (none, _) =>
      warn (.propertyUntyped model name)
      return none
    | some (some type, isCollection) =>
      return some (fieldOf name (required.contains name) schema type isCollection)

/-- The fields of some properties. -/
def properties (build : Builder) (scope : Scope) (model : String) (required : List String) :
    List (String × Value) → Extracting (List Field)
  | [] => return []
  | (name, schema) :: r => do
    let field ← property build scope model required name schema
    return field.toList ++ (← properties build scope model required r)

/-- A model, given how inline models are built. -/
def modelWith (build : Builder) (scope : Scope) (name : String) (schema : Value) :
    Extracting Model := do
  let shape ← ofExcept (Shape.ofSchema scope.document schema)
  let fields ← properties build scope name shape.required shape.properties
  if fields.isEmpty then throw (.problem (.noFields name))
  else return {
    name := name
    fields := fields
    kind := ModelKind.infer name
    description := Schema.description? schema }

/-- How deeply inline models may be nested. -/
def maxNesting : Nat := 300

/-- A model with inline models nested up to a depth. -/
def modelWithin (scope : Scope) : Nat → Builder
  | 0, _, _ => throw (.fault .nesting)
  | depth + 1, name, schema => modelWith (modelWithin scope depth) scope name schema

/-- The model of an object schema. -/
def model (scope : Scope) (name : String) (schema : Value) : Extracting Model :=
  modelWithin scope maxNesting name schema

end Typewright.Extraction
