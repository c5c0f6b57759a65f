/-
The types of parameters and bodies.

A reference leads to the extracted type of its name, if there is one. Arrays are described by the
type of their items. A reference is followed once on each way, so that no more of them are followed
than the document and the schema hold.
-/
import Typewright.Schema.Facets
import Typewright.Schema.Shape
import Typewright.Name.Case

namespace Typewright.Service

/-- What an exception of failures gives as work that notes warnings. -/
def noted {α : Type} : Except Failure α → Noting α
  | .ok a => return a
  | .error why => throw why

mutual

/-- The type of a schema, if it has one; `follow` gives the type of what a reference leads to. -/
def describeWith (document : Value) (follow : Value → Noting (Option DataType)) :
    Value → String → Noting (Option DataType)
  | .map entries, hint =>
    let schema := Value.map entries
    let type := Schema.type? schema
    if entries.isEmpty then return none
    else match Schema.ref? schema with
      | some ref => follow ref
      | none =>
        if type == some "array" then describeItems document follow entries (hint ++ "Item")
        else do
          let name := Name.pascal hint
          let isModel ← if type == some "object" then pure true
            else noted (Schema.isComplex document schema)
          if isModel then return some (← noted (Schema.modelReference name schema))
          else return some (← Schema.scalarType name schema (Schema.kind schema))
  | _, _ => return none

/-- The type of the items among the entries of an array schema. -/
def describeItems (document : Value) (follow : Value → Noting (Option DataType)) :
    List (Value × Value) → String → Noting (Option DataType)
  | [], _ => return none
  | (k, v) :: r, hint =>
    if k.isText "items" then describeWith document follow v hint
    else describeItems document follow r hint

end

/-- The type of what a reference leads to after some references have been followed; the number
bounds how many more of them are. -/
def describeReference (document : Value) (known : List (String × DataType)) :
    Nat → List String → Value → Noting (Option DataType)
  | 0, _, _ => throw (.fault .nesting)
  | more + 1, followed, ref => do
    let name ← match Document.targetName ref with
      | .ok name => pure name
      | .error f => throw (.fault f)
    match known.lookup name, ref with
    | some type, _ => return some type
    | none, .text s =>
      if followed.contains s then throw (.problem (.circular s))
      else match Document.resolve document ref with
        | .error broken => throw (.ofReference broken)
        | .ok target =>
          if ← noted (Schema.isComplex document target) then
            return some (← noted (Schema.modelReference name target))
          else
            describeWith document (describeReference document known more (s :: followed)) target name
    | none, _ => throw (.ofReference (.unsupported ref))

/-- The type of a parameter or body, if it has one. -/
def describe (document : Value) (known : List (String × DataType)) (schema : Value)
    (hint : String) : Noting (Option DataType) :=
  let more := (document.references ++ schema.references).length + 1
  describeWith document (describeReference document known more []) schema hint

end Typewright.Service
