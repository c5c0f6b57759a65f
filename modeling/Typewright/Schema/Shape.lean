/-
Shapes: the properties of an object schema.

The members of a schema's `allOf` list are merged before its own properties, and references among
them are followed. A reference is followed once on each way down, so that no more of them are
followed on one way than the document and the schema hold.
-/
import Typewright.Schema.Basic
import Typewright.Schema.Failure

namespace Typewright

namespace Value

mutual

/-- The texts under `$ref` keys in a value. -/
def references : Value → List String
  | .list items => referencesIn items
  | .tuple items => referencesIn items
  | .set items => referencesIn items
  | .map entries => referencesOf entries
  | _ => []

/-- The texts under `$ref` keys in several values. -/
def referencesIn : List Value → List String
  | [] => []
  | v :: vs => references v ++ referencesIn vs

/-- The texts under `$ref` keys in entries of a mapping. -/
def referencesOf : List (Value × Value) → List String
  | [] => []
  | (k, v) :: r => (if k.isText "$ref" then v.text?.toList else []) ++ references v ++ referencesOf r

end

end Value

/-- The properties of an object, by name in the order of their first declaration, and the names of
those that are required. -/
structure Shape where
  properties : List (String × Value) := []
  required : List String := []

namespace Shape

/-- Properties with one more declaration; a later one of the same name replaces the schema. -/
def declare (name : String) (schema : Value) : List (String × Value) → List (String × Value)
  | [] => [(name, schema)]
  | (n, s) :: r => if n == name then (n, schema) :: r else (n, s) :: declare name schema r

/-- Names with one more name at the end, unless it is there. -/
def require (names : List String) (name : String) : List String :=
  if names.contains name then names else names ++ [name]

/-- Two shapes merged; the declarations of the second one come later. -/
def merge (a b : Shape) : Shape :=
  ⟨b.properties.foldl (fun ps p => declare p.1 p.2 ps) a.properties, b.required.foldl require a.required⟩

/-- The shape that the own properties of a schema give. -/
def own (schema : Value) : Except Failure Shape :=
  let properties := schema.get "properties"
  let required := schema.get "required"
  let names (items : List Value) : List String := (items.map Value.plain).foldl require []
  let entries (es : List (Value × Value)) : List (String × Value) :=
    es.foldl (fun ps e => declare e.1.plain e.2 ps) []
  let ofRequired (ps : List (String × Value)) : Except Failure Shape :=
    if !required.isGiven then .ok ⟨ps, []⟩
    else match required with
      | .list items => .ok ⟨ps, names items⟩
      | _ => .error (.problem .requiredShape)
  if !properties.isGiven then ofRequired []
  else match properties with
    | .map es => ofRequired (entries es)
    | _ => .error (.problem .propertiesShape)

/-! ## Merging -/

mutual

/-- The shape of a schema: that of its members, then its own. `follow` gives the shape of what a
reference leads to. -/
def mergeAll (follow : Value → Except Failure Shape) : Value → Except Failure Shape
  | .map entries => do
    let members ← mergeMembers follow entries
    return members.merge (← own (.map entries))
  | _ => .error (.fault .attribute)

/-- The shape of the members among the entries of a schema. -/
def mergeMembers (follow : Value → Except Failure Shape) :
    List (Value × Value) → Except Failure Shape
  | [] => .ok {}
  | (k, v) :: r => if k.isText "allOf" then mergeMember follow v else mergeMembers follow r

/-- The shape of a list of members; other collections hold none. -/
def mergeMember (follow : Value → Except Failure Shape) : Value → Except Failure Shape
  | .list items => mergeItems follow {} items
  | .tuple items => mergeItems follow {} items
  | .set _ => .ok {}
  | .map _ => .ok {}
  | .text _ => .ok {}
  | .bytes _ => .ok {}
  | v => if v.isGiven then .error (.fault .type) else .ok {}

/-- A shape merged with the shapes of some members, in turn. -/
def mergeItems (follow : Value → Except Failure Shape) (done : Shape) :
    List Value → Except Failure Shape
  | [] => .ok done
  | .map entries :: r =>
    match (Value.map entries).get? "$ref" with
    | some ref => do
      let part ← follow ref
      mergeItems follow (done.merge part) r
    | none => do
      let part ← mergeAll follow (.map entries)
      mergeItems follow (done.merge part) r
  | _ :: r => mergeItems follow done r

end

/-- The shape of a schema after some references have been followed; the number bounds how many
more of them are. -/
def after (document : Value) : Nat → List String → Value → Except Failure Shape
  | 0, _, _ => .error (.fault .nesting)
  | more + 1, followed, schema =>
    mergeAll (fun ref =>
      match ref.keyFault?, ref with
      | some _, _ => .error (.fault .type)
      | none, .text s =>
        if followed.contains s then .error (.problem (.circularMembers s))
        else match Document.resolve document ref with
          | .ok target => after document more (s :: followed) target
          | .error broken => .error (.ofReference broken)
      | none, _ => .error (.ofReference (.unsupported ref))) schema

/-- The shape of a schema of a document. -/
def ofSchema (document schema : Value) : Except Failure Shape :=
  after document ((document.references ++ schema.references).length + 1) [] schema

end Shape

namespace Schema

/-- Whether a schema is an object with a property. One whose members are broken counts as one, so
that the failure is reported for it. -/
def isComplex (document schema : Value) : Except Failure Bool :=
  let isObject := type? schema == some "object"
  if (schema.get "allOf").isGiven then
    if type? schema == none || isObject then
      match Shape.ofSchema document schema with
      | .ok shape => .ok !shape.properties.isEmpty
      | .error (.problem _) => .ok true
      | .error why => .error why
    else .ok false
  else .ok (isObject && (schema.get "properties").isGiven)

end Schema

end Typewright
